import GroupChat.Proofs.Attestation.Objections
import GroupChat.Proofs.Roster.Changes

/-!
What can be asked of a chat, in any order and however often, what it answers, and the chats that come
of it. A call that fails counts as made: it leaves the chat as it was when it failed.
-/
namespace GroupChat

/-- The chat as a step leaves it, whether or not the step fails. -/
def Attesting.leaves {α : Type} (step : Attesting α) (chat : Chat) : Chat := finalState (step chat)

inductive Call where
  | insert (participant : Participant)
  | erase (name : String)
  | modify (position : Nat) (change : Participant → Participant)
  | setSession (sessionId : SessionId)
  | reset
  | restart
  | start
  | check (sessionId : SessionId) (fingerprint : Digest) (position : Nat)
  | receive (message : Message)

inductive Answer where
  | done
  | position (position : Option Nat)
  | participant (participant : Option Participant)
  | found (there : Bool)
  | verdict (result : Except AttestationError Bool)
  | reply (result : Except AttestationError (Option Message))

@[simp] def Call.Renews (call : Call) : Prop := call = .reset ∨ call = .restart

namespace Chat

def after (chat : Chat) : Call → Chat
  | .insert participant => { chat with roster := (chat.roster.insert participant).2 }
  | .erase name => { chat with roster := (chat.roster.erase name).2 }
  | .modify position change =>
    { chat with roster := (chat.roster.modify? position change).getD chat.roster }
  | .setSession sessionId => chat.withSession sessionId
  | .reset => chat.reset
  | .restart => chat.restart
  | .start => Attesting.start.leaves chat
  | .check sessionId fingerprint position =>
    (Attesting.check sessionId fingerprint position).leaves chat
  | .receive message => (Attesting.receive message).leaves chat

def answer (chat : Chat) : Call → Answer
  | .insert participant => .position (chat.roster.insert participant).1
  | .erase name => .participant (chat.roster.erase name).1
  | .modify position change => .found (chat.roster.modify? position change).isSome
  | .setSession _ | .reset | .restart => .done
  | .start => .reply (outcome (Attesting.start chat))
  | .check sessionId fingerprint position =>
    .verdict (outcome (Attesting.check sessionId fingerprint position chat))
  | .receive message => .reply (outcome (Attesting.receive message chat))

def answers (chat : Chat) : List Call → List Answer
  | [] => []
  | call :: calls => chat.answer call :: (chat.after call).answers calls

def afterAll (chat : Chat) (calls : List Call) : Chat := calls.foldl after chat

/-- All that a call can do to a chat. Of the calls of an attestation, those that succeed are told
apart from those that fail, and of these the one that finds a participant who does not agree. -/
inductive Becomes (chat : Chat) : Call → Chat → Prop
  | arranged {call : Call} {roster : Roster} (lasting : ¬ call.Renews)
      (linked : chat.roster.participants.IsLinked → roster.participants.IsLinked) :
      Becomes chat call { chat with roster }
  | joined (sessionId : SessionId) :
      Becomes chat (.setSession sessionId) (chat.withSession sessionId)
  | dropped : Becomes chat .reset chat.reset
  | renewed : Becomes chat .restart chat.restart
  | kept {message : Message} : Becomes chat (.receive message) chat
  | begun {call : Call} (lasting : ¬ call.Renews) : Becomes chat call (chat.withTally chat.progress)
  | started {reply : Option Message} {final : Chat}
      (started : Attesting.start chat = .ok reply final) : Becomes chat .start final
  | checked {sessionId : SessionId} {fingerprint : Digest} {position : Nat} {agrees : Bool}
      {final : Chat}
      (checked : Attesting.check sessionId fingerprint position chat = .ok agrees final) :
      Becomes chat (.check sessionId fingerprint position) final
  | refused {message : Message} {theirs : Nat} (awaiting : chat.progress.stage = .awaiting)
      (inRange : theirs < chat.progress.size) :
      Becomes chat (.receive message)
        (chat.withTally (chat.progress.judge theirs inRange false))
  | received {message : Message} {reply : Option Message} {final : Chat}
      (received : Attesting.receive message chat = .ok reply final) :
      Becomes chat (.receive message) final

theorem becomes (chat : Chat) (call : Call) : chat.Becomes call (chat.after call) := by
  cases call with
  | insert participant => exact .arranged (by simp) (Roster.isLinked_insert · _)
  | erase name => exact .arranged (by simp) (Roster.isLinked_erase · _)
  | modify position change =>
    refine .arranged (by simp) fun linked => ?_
    cases modified : chat.roster.modify? position change with
    | none => exact linked
    | some changed => exact Roster.isLinked_modify? linked modified
  | setSession sessionId => exact .joined sessionId
  | reset => exact .dropped
  | restart => exact .renewed
  | start =>
    rw [after, Attesting.leaves]
    cases result : Attesting.start chat with
    | ok reply final => exact .started result
    | error error final =>
      rw [Attesting.final_of_start_eq_error result]
      exact .begun (by simp)
  | check sessionId fingerprint position =>
    rw [after, Attesting.leaves]
    cases result : Attesting.check sessionId fingerprint position chat with
    | ok agrees final => exact .checked result
    | error error final =>
      rw [(Attesting.check_eq_error.mp result).2]
      exact .begun (by simp)
  | receive message =>
    rw [after, Attesting.leaves]
    cases result : Attesting.receive message chat with
    | ok reply final => exact .received result
    | error error final =>
      obtain ⟨_, rfl | rfl⟩ | refused := Attesting.receive_eq_error result
      · exact .kept
      · exact .begun (by simp)
      · obtain ⟨_, _, theirs, inRange, _, awaiting, _, _, _, rfl⟩ := refused
        exact .refused awaiting inRange

theorem afterAll_concat (chat : Chat) (calls : List Call) (call : Call) :
    chat.afterAll (calls ++ [call]) = (chat.afterAll calls).after call := by
  simp [afterAll]

theorem afterAll_append (chat : Chat) (front back : List Call) :
    chat.afterAll (front ++ back) = (chat.afterAll front).afterAll back := List.foldl_append

theorem Becomes.lasts {chat final : Chat} {call : Call} {tally : Tally}
    (becomes : chat.Becomes call final) (lasting : ¬ call.Renews) (held : chat.tally = some tally) :
    ∃ further, final.tally = some further ∧ further.size = tally.size := by
  have progress : chat.progress = tally := by rw [Chat.progress, held, Option.getD_some]
  cases becomes with
  | dropped => exact absurd (.inl rfl) lasting
  | renewed => exact absurd (.inr rfl) lasting
  | begun => exact ⟨_, rfl, congrArg Tally.size progress⟩
  | started started =>
    obtain ⟨ours, inRange, _, _, rfl⟩ := Attesting.start_eq_ok.mp started
    exact ⟨_, rfl, (Tally.size_mark _ ours inRange).trans (congrArg Tally.size progress)⟩
  | checked checked =>
    obtain ⟨inRange, _, rfl⟩ := Attesting.check_eq_ok.mp checked
    exact ⟨_, rfl, (Tally.size_judge ..).trans (congrArg Tally.size progress)⟩
  | refused => exact ⟨_, rfl, (Tally.size_judge ..).trans (congrArg Tally.size progress)⟩
  | received received =>
    obtain ⟨_, _, _, _, _, _, rfl⟩ := Attesting.receive_eq_ok_iff_admits.mp received
    refine ⟨_, tally_settled _, ?_⟩
    exact (Tally.size_mark ..).trans ((Tally.size_judge ..).trans (congrArg Tally.size progress))
  | _ => exact ⟨tally, held, rfl⟩

theorem afterAll_lasts {chat : Chat} {calls : List Call} {tally : Tally}
    (lasting : ∀ call ∈ calls, ¬ call.Renews) (held : chat.tally = some tally) :
    ∃ further, (chat.afterAll calls).tally = some further ∧ further.size = tally.size := by
  induction calls generalizing chat tally with
  | nil => exact ⟨tally, held, rfl⟩
  | cons call calls ih =>
    obtain ⟨first, others⟩ := List.forall_mem_cons.mp lasting
    obtain ⟨next, ongoing, size⟩ := (chat.becomes call).lasts first held
    obtain ⟨further, reached, same⟩ := ih others ongoing
    exact ⟨further, reached, same.trans size⟩

theorem answers_concat (chat : Chat) (calls : List Call) (call : Call) :
    chat.answers (calls ++ [call]) = chat.answers calls ++ [(chat.afterAll calls).answer call] := by
  induction calls generalizing chat with
  | nil => rfl
  | cons first calls ih => exact congrArg (List.cons _) (ih _)

def Reachable (chat : Chat) : Prop :=
  ∃ settings name calls, (Chat.new settings name).afterAll calls = chat

theorem Reachable.after {chat : Chat} (reachable : chat.Reachable) (call : Call) :
    (chat.after call).Reachable := by
  obtain ⟨settings, name, calls, rfl⟩ := reachable
  exact ⟨settings, name, calls ++ [call], afterAll_concat ..⟩

/-- What holds of new chats and is kept by every call holds of every chat that is reachable. -/
theorem Reachable.induct {chat : Chat} {Holds : Chat → Prop} (reachable : chat.Reachable)
    (opened : ∀ settings name, Holds (.new settings name))
    (step : ∀ {chat call final}, Holds chat → chat.Becomes call final → Holds final) :
    Holds chat := by
  obtain ⟨settings, name, calls, rfl⟩ := reachable
  induction calls using List.reverseRecOn with
  | nil => exact opened settings name
  | append_singleton calls call ih =>
    rw [afterAll_concat]
    exact step ih (becomes _ call)

def assembly (participants : List Participant) (sessionId : SessionId) : List Call :=
  participants.map .insert ++ [.setSession sessionId]

def assembled (name : String) (participants : List Participant) (sessionId : SessionId) : Chat :=
  (Chat.new .default name).afterAll (assembly participants sessionId)

theorem reachable_assembled (name : String) (participants : List Participant)
    (sessionId : SessionId) : (assembled name participants sessionId).Reachable := ⟨_, _, _, rfl⟩

end Chat

def attestationOfBob (participants : List Participant) : Message :=
  let chat := Chat.assembled "bob" participants (.zero _)
  chat.attesting (.zero _) (sha512Concat (Roster.keysOn chat.roster.cards))

theorem Chat.admits_of_pair :
    let chat := assembled "alice" [.alice, .bob] (.zero _)
    let fingerprint := sha512Concat (Roster.keysOn chat.roster.cards)
    ∀ {message theirs}, message.payload = .attest (.zero _) fingerprint →
      chat.roster.positionOf? message.sender = some theirs → theirs < 2 →
      chat.Admits message (.zero _) fingerprint theirs 0 := by
  intro chat fingerprint message theirs payload place inRange
  exact {
    payload
    awaiting := rfl
    theirPlace := place
    ourPlace := by decide +kernel
    oursInRange := by decide +kernel
    theirsInRange := inRange.trans_eq (by decide +kernel)
    session := rfl
    keyed := Roster.isKeyed_iff.mpr (by decide +kernel)
    table := Roster.fingerprint_of_cards (by decide +kernel)
  }

end GroupChat

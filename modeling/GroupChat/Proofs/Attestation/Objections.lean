import GroupChat.Proofs.Attestation.Failures
import GroupChat.Proofs.Fingerprint

/-!
What can be said against an attestation that comes in. There are ten objections, in a fixed order, and
each stands for itself. A message is taken if there is none, and refused for the first of them if there
are some. All of them are looked for before anything is marked, so nothing fails after that.
-/
namespace GroupChat

namespace Tally

variable {tally : Tally} {position : Nat}

def withdraw (tally : Tally) (position : Nat) : Tally :=
  if inRange : position < tally.size then tally.unmark position inRange else tally

theorem withdraw_eq (inRange : position < tally.size) :
    tally.withdraw position = tally.judge position inRange false := dif_pos inRange

end Tally

namespace Chat

/-- What a chat needs to take a message, which attests a session id and a fingerprint. -/
structure Admits (chat : Chat) (message : Message) (sessionId : SessionId) (fingerprint : Digest)
    (theirs ours : Nat) : Prop where
  payload : message.payload = .attest sessionId fingerprint
  awaiting : chat.progress.stage = .awaiting
  theirPlace : chat.roster.positionOf? message.sender = some theirs
  ourPlace : chat.ownPosition? = some ours
  oursInRange : ours < chat.progress.size
  theirsInRange : theirs < chat.progress.size
  session : chat.sessionId = some sessionId
  keyed : chat.roster.IsKeyed
  table : chat.roster.fingerprint = .ok fingerprint

/-- What there is to say against a message, by its rank among the objections. -/
inductive Objects (chat : Chat) (message : Message) : Nat → AttestationError → Prop
  | notAttestation (other : ∀ sessionId fingerprint, message.payload ≠ .attest sessionId fingerprint) :
      Objects chat message 0 (.notAttestation message.kind)
  | finished (ended : chat.progress.stage = .finished) : Objects chat message 1 .finished
  | unknownSender (unknown : chat.roster.positionOf? message.sender = none) :
      Objects chat message 2 (.notAParticipant message.sender)
  | unknownSelf (unknown : chat.ownPosition? = none) :
      Objects chat message 3 (.notAParticipant chat.name)
  | oursOutside {ours : Nat} (ourPlace : chat.ownPosition? = some ours)
      (outside : chat.progress.size ≤ ours) :
      Objects chat message 4 (.outOfRange ours chat.progress.size)
  | theirsOutside {theirs : Nat} (theirPlace : chat.roster.positionOf? message.sender = some theirs)
      (outside : chat.progress.size ≤ theirs) :
      Objects chat message 5 (.outOfRange theirs chat.progress.size)
  | noSession (idle : chat.sessionId = none) : Objects chat message 6 .noSessionId
  | otherSession {sessionId own : SessionId} {fingerprint : Digest} {theirs : Nat}
      (payload : message.payload = .attest sessionId fingerprint)
      (session : chat.sessionId = some own) (apart : own ≠ sessionId)
      (theirPlace : chat.roster.positionOf? message.sender = some theirs) :
      Objects chat message 7 (.disagrees theirs)
  | unkeyed {participant : Participant}
      (first : chat.roster.toList.find? (·.key.isNone) = some participant) :
      Objects chat message 8 (.noKey participant.name)
  | otherTable {sessionId : SessionId} {fingerprint own : Digest} {theirs : Nat}
      (payload : message.payload = .attest sessionId fingerprint)
      (table : chat.roster.fingerprint = .ok own) (apart : own ≠ fingerprint)
      (theirPlace : chat.roster.positionOf? message.sender = some theirs) :
      Objects chat message 9 (.disagrees theirs)

def IsClear (chat : Chat) (message : Message) (rank : Nat) : Prop :=
  ∀ lower < rank, ∀ error, ¬ chat.Objects message lower error

/-- The first of all that is to be said against a message. -/
def Refuses (chat : Chat) (message : Message) (error : AttestationError) : Prop :=
  ∃ rank, chat.Objects message rank error ∧ chat.IsClear message rank

def aftermath (chat : Chat) : AttestationError → Chat
  | .notAttestation _ => chat
  | .disagrees position => chat.withTally (chat.progress.withdraw position)
  | _ => chat.withTally chat.progress

variable {chat final : Chat} {message : Message} {error other : AttestationError} {rank : Nat}
variable {sessionId : SessionId} {fingerprint : Digest} {theirs ours : Nat}

theorem Objects.unique (objects : chat.Objects message rank error)
    (again : chat.Objects message rank other) : error = other := by
  cases objects with
  | oursOutside place => cases again with
    | oursOutside same => rw [Option.some.inj (place.symm.trans same)]
  | theirsOutside place => cases again with
    | theirsOutside same => rw [Option.some.inj (place.symm.trans same)]
  | otherSession _ _ _ place => cases again with
    | otherSession _ _ _ same => rw [Option.some.inj (place.symm.trans same)]
  | unkeyed first => cases again with
    | unkeyed same => rw [Option.some.inj (first.symm.trans same)]
  | otherTable _ _ _ place => cases again with
    | otherTable _ _ _ same => rw [Option.some.inj (place.symm.trans same)]
  | _ => cases again; rfl

theorem Refuses.unique (refuses : chat.Refuses message error)
    (again : chat.Refuses message other) : error = other := by
  obtain ⟨rank, objects, clear⟩ := refuses
  obtain ⟨rank', objects', clear'⟩ := again
  obtain before | rfl | after := Nat.lt_trichotomy rank rank'
  · exact absurd objects (clear' rank before error)
  · exact objects.unique objects'
  · exact absurd objects' (clear rank' after other)

/-! ### Objections that fall away -/

namespace IsClear

theorem zero : chat.IsClear message 0 := fun _ absurdity => absurd absurdity (Nat.not_lt_zero _)

theorem succ (clear : chat.IsClear message rank)
    (fallen : ∀ error, ¬ chat.Objects message rank error) : chat.IsClear message (rank + 1) := by
  intro lower before
  obtain before | rfl := Nat.lt_succ_iff_lt_or_eq.mp before
  · exact clear lower before
  · exact fallen

theorem payload (payload : message.payload = .attest sessionId fingerprint) :
    chat.IsClear message 1 := by
  refine zero.succ fun error objection => ?_
  cases objection with
  | notAttestation other => exact other _ _ payload

theorem awaiting (clear : chat.IsClear message 1) (awaiting : chat.progress.stage = .awaiting) :
    chat.IsClear message 2 := by
  refine clear.succ fun error objection => ?_
  cases objection with
  | finished ended => simp [awaiting] at ended

theorem theirPlace (clear : chat.IsClear message 2)
    (place : chat.roster.positionOf? message.sender = some theirs) : chat.IsClear message 3 := by
  refine clear.succ fun error objection => ?_
  cases objection with
  | unknownSender unknown => simp [place] at unknown

theorem ourPlace (clear : chat.IsClear message 3) (place : chat.ownPosition? = some ours) :
    chat.IsClear message 4 := by
  refine clear.succ fun error objection => ?_
  cases objection with
  | unknownSelf unknown => simp [place] at unknown

theorem oursInRange (clear : chat.IsClear message 4) (place : chat.ownPosition? = some ours)
    (inRange : ours < chat.progress.size) : chat.IsClear message 5 := by
  refine clear.succ fun error objection => ?_
  cases objection with
  | oursOutside same outside =>
    obtain rfl := Option.some.inj (place.symm.trans same)
    exact absurd inRange outside.not_gt

theorem theirsInRange (clear : chat.IsClear message 5)
    (place : chat.roster.positionOf? message.sender = some theirs)
    (inRange : theirs < chat.progress.size) : chat.IsClear message 6 := by
  refine clear.succ fun error objection => ?_
  cases objection with
  | theirsOutside same outside =>
    obtain rfl := Option.some.inj (place.symm.trans same)
    exact absurd inRange outside.not_gt

theorem inSession {own : SessionId} (clear : chat.IsClear message 6)
    (session : chat.sessionId = some own) : chat.IsClear message 7 := by
  refine clear.succ fun error objection => ?_
  cases objection with
  | noSession idle => simp [session] at idle

theorem session (clear : chat.IsClear message 7)
    (payload : message.payload = .attest sessionId fingerprint)
    (session : chat.sessionId = some sessionId) : chat.IsClear message 8 := by
  refine clear.succ fun error objection => ?_
  cases objection with
  | otherSession other same apart =>
    obtain ⟨rfl, rfl⟩ := Payload.attest.inj (payload.symm.trans other)
    exact apart (Option.some.inj (same.symm.trans session))

theorem keyed (clear : chat.IsClear message 8) (keyed : chat.roster.IsKeyed) :
    chat.IsClear message 9 := by
  refine clear.succ fun error objection => ?_
  cases objection with
  | unkeyed first =>
    have keyless := List.find?_some first
    have present := keyed _ (List.mem_of_find?_eq_some first)
    rw [Option.isNone_iff_eq_none] at keyless
    simp [keyless] at present

theorem table (clear : chat.IsClear message 9)
    (payload : message.payload = .attest sessionId fingerprint)
    (table : chat.roster.fingerprint = .ok fingerprint) : chat.IsClear message 10 := by
  refine clear.succ fun error objection => ?_
  cases objection with
  | otherTable other same apart =>
    obtain ⟨rfl, rfl⟩ := Payload.attest.inj (payload.symm.trans other)
    exact apart (Except.ok.inj (same.symm.trans table))

end IsClear

theorem Admits.isClear (admits : chat.Admits message sessionId fingerprint theirs ours) :
    chat.IsClear message 10 :=
  IsClear.payload admits.payload |>.awaiting admits.awaiting |>.theirPlace admits.theirPlace
    |>.ourPlace admits.ourPlace |>.oursInRange admits.ourPlace admits.oursInRange
    |>.theirsInRange admits.theirPlace admits.theirsInRange |>.inSession admits.session
    |>.session admits.payload admits.session |>.keyed admits.keyed
    |>.table admits.payload admits.table

theorem Objects.rank_lt (objects : chat.Objects message rank error) : rank < 10 := by
  cases objects <;> decide

theorem Admits.not_refuses (admits : chat.Admits message sessionId fingerprint theirs ours)
    (error : AttestationError) : ¬ chat.Refuses message error := by
  rintro ⟨rank, objects, _⟩
  exact admits.isClear rank objects.rank_lt error objects

theorem Refuses.disagreement (refuses : chat.Refuses message (.disagrees theirs)) :
    ∃ sessionId fingerprint, ∃ _ : theirs < chat.progress.size,
      message.payload = .attest sessionId fingerprint ∧ chat.progress.stage = .awaiting ∧
      chat.roster.positionOf? message.sender = some theirs ∧
      chat.agrees sessionId fingerprint = .ok false := by
  obtain ⟨rank, objects, clear⟩ := refuses
  have awaiting (late : 1 < rank) : chat.progress.stage = .awaiting := by
    cases stage : chat.progress.stage with
    | awaiting => rfl
    | finished => exact absurd (.finished stage) (clear 1 late _)
  have inRange (late : 5 < rank) (place : chat.roster.positionOf? message.sender = some theirs) :
      theirs < chat.progress.size := by
    by_contra outside
    exact clear 5 late _ (.theirsOutside place (Nat.le_of_not_lt outside))
  cases objects with
  | otherSession payload session apart place =>
    refine ⟨_, _, inRange (by decide) place, payload, awaiting (by decide), place, ?_⟩
    exact agrees_eq_ok_false.mpr (.inl ⟨_, session, apart⟩)
  | otherTable payload table apart place =>
    refine ⟨_, _, inRange (by decide) place, payload, awaiting (by decide), place, ?_⟩
    refine agrees_eq_ok_false.mpr (.inr ⟨?_, _, table, apart⟩)
    cases session : chat.sessionId with
    | none => exact absurd (.noSession session) (clear 6 (by decide) _)
    | some own =>
      by_contra other
      have apart := fun same => other (congrArg some same)
      exact clear 7 (by decide) _ (.otherSession payload session apart place)

end Chat

namespace Attesting

variable {chat final : Chat} {message : Message} {error : AttestationError}
variable {sessionId : SessionId} {fingerprint : Digest} {ours : Nat}

/-- All that is done with a message before ours is given out. Gives our position. -/
def accept (message : Message) : Attesting Nat :=
  match message.payload with
  | .attest sessionId fingerprint => do
    ensureAwaiting
    let theirs ← positionOf message.sender
    let ours ← ownPosition
    ensureInRange ours
    confirm sessionId fingerprint theirs
    return ours
  | _ => throw (.notAttestation message.kind)

def conclude (ours : Nat) : Attesting (Option Message) := do
  let reply ← attestSelf ours
  finishIfComplete
  return reply

theorem receive_eq_bind (message : Message) : receive message = accept message >>= conclude := by
  cases payload : message.payload with
  | attest => simp [receive, accept, conclude, payload]
  | _ =>
    simp only [receive, accept, payload]
    rfl

theorem conclude_of_accept {middle : Chat} (accepted : accept message chat = .ok ours middle) :
    ∃ reply final, conclude ours middle = .ok reply final := by
  cases payload : message.payload with
  | attest sessionId fingerprint =>
    simp only [accept, payload] at accepted
    simp only [bind_eq_ok, ensureAwaiting_eq_ok, positionOf_eq_ok, ownPosition_eq_ok,
      ensureInRange_eq_ok, pure_eq_ok] at accepted
    obtain ⟨_, _, ⟨_, rfl⟩, _, _, ⟨_, rfl⟩, _, _, ⟨_, rfl⟩, _, _, ⟨inRange, rfl⟩, _, _, confirmed,
      rfl, rfl⟩ := accepted
    obtain ⟨reply, attested, announced⟩ := attestSelf_of_confirm inRange confirmed
    refine ⟨reply, attested.settled, (bind_of_ok announced).trans ?_⟩
    exact bind_of_ok (finishIfComplete_eq attested)
  | _ =>
    simp only [accept, payload] at accepted
    exact absurd accepted throw_ne_ok

theorem receive_eq_error_iff_accept :
    receive message chat = .error error final ↔ accept message chat = .error error final := by
  rw [receive_eq_bind, bind_eq_error]
  refine or_iff_left fun ⟨ours, middle, accepted, failed⟩ => ?_
  obtain ⟨reply, settled, concluded⟩ := conclude_of_accept accepted
  rw [concluded] at failed
  contradiction

theorem refuses_of_confirm {theirs : Nat}
    (payload : message.payload = .attest sessionId fingerprint)
    (theirPlace : chat.roster.positionOf? message.sender = some theirs)
    (clear : chat.IsClear message 5)
    (failed : confirm sessionId fingerprint theirs (chat.withTally chat.progress) =
      .error error final) :
    chat.Refuses message error ∧ final = chat.aftermath error := by
  obtain failed | ⟨rfl, checked⟩ := confirm_eq_error.mp failed
  · obtain ⟨⟨outside, rfl⟩ | ⟨theirsInRange, undecided⟩, rfl⟩ := check_eq_error.mp failed
    · exact ⟨⟨5, .theirsOutside theirPlace (Nat.le_of_not_lt outside), clear⟩, rfl⟩
    have clear := clear.theirsInRange theirPlace theirsInRange
    obtain ⟨idle, rfl⟩ | ⟨session, unkeyed⟩ := Chat.agrees_eq_error.mp undecided
    · exact ⟨⟨6, .noSession idle, clear⟩, rfl⟩
    · obtain ⟨participant, first, rfl⟩ := Roster.fingerprint_eq_error unkeyed
      have clear := (clear.inSession session).session payload session
      exact ⟨⟨8, .unkeyed first, clear⟩, rfl⟩
  · obtain ⟨theirsInRange, disagrees, rfl⟩ := check_eq_ok.mp checked
    have clear := clear.theirsInRange theirPlace theirsInRange
    refine ⟨?_, congrArg chat.withTally (Tally.withdraw_eq theirsInRange).symm⟩
    obtain ⟨own, session, apart⟩ | ⟨session, own, table, apart⟩ :=
      Chat.agrees_eq_ok_false.mp disagrees
    · exact ⟨7, .otherSession payload session apart theirPlace, clear.inSession session⟩
    · have keyed := (Roster.fingerprint_eq_ok.mp table).1
      have clear := ((clear.inSession session).session payload session).keyed keyed
      exact ⟨9, .otherTable payload table apart theirPlace, clear⟩

theorem refuses_of_accept (failed : accept message chat = .error error final) :
    chat.Refuses message error ∧ final = chat.aftermath error := by
  cases payload : message.payload with
  | attest sessionId fingerprint =>
    have clear : chat.IsClear message 1 := .payload payload
    simp only [accept, payload] at failed
    obtain failed | ⟨_, _, waits, failed⟩ := bind_eq_error.mp failed
    · obtain ⟨ended, rfl, rfl⟩ := ensureAwaiting_eq_error.mp failed
      have finished : chat.progress.stage = .finished := by
        cases stage : chat.progress.stage with
        | awaiting => exact absurd stage ended
        | finished => rfl
      exact ⟨⟨1, .finished finished, clear⟩, rfl⟩
    obtain ⟨awaiting, rfl⟩ := ensureAwaiting_eq_ok.mp waits
    have clear := clear.awaiting awaiting
    obtain failed | ⟨theirs, _, located, failed⟩ := bind_eq_error.mp failed
    · obtain ⟨unknown, rfl, rfl⟩ := positionOf_eq_error.mp failed
      exact ⟨⟨2, .unknownSender unknown, clear⟩, rfl⟩
    obtain ⟨theirPlace, rfl⟩ := positionOf_eq_ok.mp located
    have clear := clear.theirPlace theirPlace
    obtain failed | ⟨ours, _, located, failed⟩ := bind_eq_error.mp failed
    · obtain ⟨unknown, rfl, rfl⟩ := ownPosition_eq_error.mp failed
      exact ⟨⟨3, .unknownSelf unknown, clear⟩, rfl⟩
    obtain ⟨ourPlace, rfl⟩ := ownPosition_eq_ok.mp located
    have clear := clear.ourPlace ourPlace
    obtain failed | ⟨_, _, inside, failed⟩ := bind_eq_error.mp failed
    · obtain ⟨outside, rfl, rfl⟩ := ensureInRange_eq_error.mp failed
      exact ⟨⟨4, .oursOutside ourPlace (Nat.le_of_not_lt outside), clear⟩, rfl⟩
    obtain ⟨oursInRange, rfl⟩ := ensureInRange_eq_ok.mp inside
    have clear := clear.oursInRange ourPlace oursInRange
    obtain failed | ⟨_, _, _, failed⟩ := bind_eq_error.mp failed
    · exact refuses_of_confirm payload theirPlace clear failed
    · exact absurd failed pure_ne_error
  | _ =>
    simp only [accept, payload] at failed
    obtain ⟨rfl, rfl⟩ := EStateM.Result.error.inj failed
    exact ⟨⟨0, .notAttestation (by simp [payload]), .zero⟩, rfl⟩

theorem receive_eq_ok_iff_admits {reply : Option Message} :
    receive message chat = .ok reply final ↔ ∃ sessionId fingerprint theirs ours,
      ∃ admits : chat.Admits message sessionId fingerprint theirs ours,
        let judged := chat.progress.judge theirs admits.theirsInRange true
        (chat.withTally judged).announcement ours = .ok reply ∧
          (chat.withTally (judged.mark ours (by simpa [judged] using admits.oursInRange))).settled =
            final := by
  refine receive_eq_ok.trans ⟨fun received => ?_, fun taken => ?_⟩
  · obtain ⟨sessionId, fingerprint, theirs, ours, payload, awaiting, theirPlace, ourPlace, agreed,
      theirsInRange, oursInRange, announced, rfl⟩ := received
    obtain ⟨session, table⟩ := Chat.agrees_eq_ok_true.mp agreed
    have keyed := (Roster.fingerprint_eq_ok.mp table).1
    exact ⟨sessionId, fingerprint, theirs, ours, ⟨payload, awaiting, theirPlace, ourPlace,
      oursInRange, theirsInRange, session, keyed, table⟩, announced, rfl⟩
  · obtain ⟨sessionId, fingerprint, theirs, ours, admits, announced, rfl⟩ := taken
    exact ⟨sessionId, fingerprint, theirs, ours, admits.payload, admits.awaiting, admits.theirPlace,
      admits.ourPlace, Chat.agrees_eq_ok_true.mpr ⟨admits.session, admits.table⟩,
      admits.theirsInRange, admits.oursInRange, announced, rfl⟩

theorem receive_of_admits {theirs : Nat}
    (admits : chat.Admits message sessionId fingerprint theirs ours) :
    ∃ reply final, receive message chat = .ok reply final := by
  have agreed := Chat.agrees_eq_ok_true.mpr ⟨admits.session, admits.table⟩
  obtain ⟨reply, announced⟩ := Chat.announcement_of_agrees agreed
    (chat.progress.judge theirs admits.theirsInRange true) ours
  exact ⟨reply, _, receive_eq_ok_iff_admits.mpr ⟨_, _, _, _, admits, announced, rfl⟩⟩

theorem receive_eq_error_iff :
    receive message chat = .error error final ↔
      chat.Refuses message error ∧ final = chat.aftermath error := by
  refine ⟨fun failed => refuses_of_accept (receive_eq_error_iff_accept.mp failed), ?_⟩
  rintro ⟨refuses, rfl⟩
  cases result : receive message chat with
  | ok reply final =>
    obtain ⟨_, _, _, _, admits, _⟩ := receive_eq_ok_iff_admits.mp result
    exact absurd refuses (admits.not_refuses error)
  | error other final =>
    obtain ⟨again, rfl⟩ := refuses_of_accept (receive_eq_error_iff_accept.mp result)
    rw [refuses.unique again]

theorem receive_eq_error (failed : receive message chat = .error error final) :
    ((∀ position, error ≠ .disagrees position) ∧
        (final = chat ∨ final = chat.withTally chat.progress)) ∨
      ∃ sessionId fingerprint theirs, ∃ theirsInRange : theirs < chat.progress.size,
        message.payload = .attest sessionId fingerprint ∧ chat.progress.stage = .awaiting ∧
        chat.roster.positionOf? message.sender = some theirs ∧
        chat.agrees sessionId fingerprint = .ok false ∧ error = .disagrees theirs ∧
        final = chat.withTally (chat.progress.judge theirs theirsInRange false) := by
  obtain ⟨refuses, rfl⟩ := receive_eq_error_iff.mp failed
  cases error with
  | disagrees theirs =>
    obtain ⟨sessionId, fingerprint, inRange, payload, awaiting, place, disagrees⟩ :=
      refuses.disagreement
    exact .inr ⟨sessionId, fingerprint, theirs, inRange, payload, awaiting, place, disagrees, rfl,
      congrArg chat.withTally (Tally.withdraw_eq inRange)⟩
  | notAttestation kind => exact .inl ⟨by simp, .inl rfl⟩
  | _ => exact .inl ⟨by simp, .inr rfl⟩

end Attesting

end GroupChat

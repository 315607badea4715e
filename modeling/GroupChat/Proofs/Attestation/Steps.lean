import GroupChat.Attestation.Round
import GroupChat.Proofs.Attestation.Marks
import GroupChat.Proofs.StateSteps

/-!
When the steps of an attestation succeed, and how they leave the chat.
-/
namespace GroupChat

namespace Chat

@[simp] theorem progress_withTally (chat : Chat) (tally : Tally) :
    (chat.withTally tally).progress = tally := rfl

@[simp] theorem withTally_withTally (chat : Chat) (tally other : Tally) :
    (chat.withTally tally).withTally other = chat.withTally other := rfl

@[simp] theorem agrees_withTally (chat : Chat) (tally : Tally) :
    (chat.withTally tally).agrees = chat.agrees := rfl

def announcement (chat : Chat) (position : Nat) : Except AttestationError (Option Message) :=
  if chat.progress.isMarked position then .ok none else chat.attestation.map some

def settled (chat : Chat) : Chat :=
  if chat.progress.isComplete then
    { chat.withTally { chat.progress with stage := .finished } with phase := .encrypted }
  else chat.withTally chat.progress

theorem tally_settled (chat : Chat) : chat.settled.tally = some { chat.progress with
    stage := if chat.progress.isComplete then .finished else chat.progress.stage } := by
  unfold settled
  split <;> rfl

theorem phase_settled (chat : Chat) :
    chat.settled.phase = if chat.progress.isComplete then .encrypted else chat.phase := by
  unfold settled
  split <;> rfl

/-- Two states of a chat have one session id and one table. -/
structure Keeps (chat final : Chat) : Prop where
  sessionId : final.sessionId = chat.sessionId
  roster : final.roster = chat.roster

theorem Keeps.trans {chat middle final : Chat} (first : chat.Keeps middle)
    (second : middle.Keeps final) : chat.Keeps final :=
  ⟨second.sessionId.trans first.sessionId, second.roster.trans first.roster⟩

theorem keeps_withTally (chat : Chat) (tally : Tally) : chat.Keeps (chat.withTally tally) :=
  ⟨rfl, rfl⟩

theorem keeps_settled (chat : Chat) : chat.Keeps chat.settled := by
  unfold settled
  split <;> exact ⟨rfl, rfl⟩

end Chat

namespace Attesting

variable {α : Type} {chat final : Chat} {position : Nat}

theorem withPosition_eq_ok {next : (tally : Tally) → position < tally.size → Attesting α}
    {result : α} :
    withPosition position next chat = .ok result final ↔
      ∃ inRange : position < chat.progress.size,
        next chat.progress inRange (chat.withTally chat.progress) = .ok result final := by
  by_cases inRange : position < chat.progress.size <;> simp [withPosition, inRange]

theorem check_eq_ok {sessionId : SessionId} {fingerprint : Digest} {agrees : Bool} :
    check sessionId fingerprint position chat = .ok agrees final ↔
      ∃ inRange : position < chat.progress.size, chat.agrees sessionId fingerprint = .ok agrees ∧
        chat.withTally (chat.progress.judge position inRange agrees) = final := by
  refine withPosition_eq_ok.trans ?_
  simp only [Chat.agrees_withTally]
  cases chat.agrees sessionId fingerprint with
  | error => simp
  | ok verdict =>
    by_cases same : verdict = agrees <;> simp [same]

theorem confirm_eq_ok {sessionId : SessionId} {fingerprint : Digest} {result : Unit} :
    confirm sessionId fingerprint position chat = .ok result final ↔
      ∃ inRange : position < chat.progress.size, chat.agrees sessionId fingerprint = .ok true ∧
        chat.withTally (chat.progress.judge position inRange true) = final := by
  rw [confirm, bind_eq_ok]
  refine ⟨fun confirmed => ?_, fun confirmed => ?_⟩
  · obtain ⟨agrees, middle, checked, confirmed⟩ := confirmed
    cases agrees with
    | true =>
      obtain ⟨_, rfl⟩ := pure_eq_ok.mp confirmed
      exact check_eq_ok.mp checked
    | false => exact absurd confirmed throw_ne_ok
  · exact ⟨true, final, check_eq_ok.mpr confirmed, rfl⟩

theorem attestSelf_eq_ok {reply : Option Message} :
    attestSelf position chat = .ok reply final ↔
      ∃ inRange : position < chat.progress.size, chat.announcement position = .ok reply ∧
        chat.withTally (chat.progress.mark position inRange) = final := by
  refine withPosition_eq_ok.trans (exists_congr fun inRange => ?_)
  have marked := Tally.isMarked_eq_getElem inRange
  by_cases already : chat.progress.isMarked position
  · rw [already] at marked
    simp [Chat.announcement, already, ← marked, Tally.mark]
  · have attestation : (chat.withTally chat.progress).attestation = chat.attestation := rfl
    simp only [Chat.announcement, already, ← marked, attestation]
    cases chat.attestation <;> simp [Except.map]

theorem ensureInRange_eq_ok {result : Unit} :
    ensureInRange position chat = .ok result final ↔
      position < chat.progress.size ∧ chat.withTally chat.progress = final := by
  simp [ensureInRange, withPosition_eq_ok, pure_eq_ok]

theorem positionOf_eq_ok {name : String} :
    positionOf name chat = .ok position final ↔
      chat.roster.positionOf? name = some position ∧ chat = final := by
  unfold positionOf
  cases chat.roster.positionOf? name <;> simp

theorem ownPosition_eq_ok :
    ownPosition chat = .ok position final ↔
      chat.ownPosition? = some position ∧ chat = final := positionOf_eq_ok

theorem ensureAwaiting_eq_ok {result : Unit} :
    ensureAwaiting chat = .ok result final ↔
      chat.progress.stage = .awaiting ∧ chat.withTally chat.progress = final := by
  by_cases awaiting : chat.progress.stage = .awaiting <;> simp [ensureAwaiting, awaiting]

theorem finishIfComplete_eq (chat : Chat) : finishIfComplete chat = .ok () chat.settled := by
  by_cases complete : chat.progress.isComplete <;>
    simp [finishIfComplete, Chat.settled, complete]

theorem start_eq_ok {reply : Option Message} :
    start chat = .ok reply final ↔
      ∃ ours, ∃ inRange : ours < chat.progress.size, chat.ownPosition? = some ours ∧
        chat.announcement ours = .ok reply ∧
        chat.withTally { chat.progress.mark ours inRange with stage := .awaiting } = final := by
  have begun : begin chat = .ok () (chat.withTally chat.progress) := rfl
  rw [start, bind_of_ok begun]
  simp only [bind_eq_ok, ownPosition_eq_ok, attestSelf_eq_ok, pure_eq_ok]
  refine ⟨fun started => ?_, fun started => ?_⟩
  · obtain ⟨ours, _, ⟨located, rfl⟩, _, _, ⟨inRange, announced, rfl⟩, _, _, staged, rfl, rfl⟩ :=
      started
    obtain ⟨_, rfl⟩ := EStateM.Result.ok.inj staged
    exact ⟨ours, inRange, located, announced, rfl⟩
  · obtain ⟨ours, inRange, located, announced, rfl⟩ := started
    exact ⟨ours, _, ⟨located, rfl⟩, reply, _, ⟨inRange, announced, rfl⟩, (), _, rfl, rfl, rfl⟩

theorem receive_eq_ok {message : Message} {reply : Option Message} :
    receive message chat = .ok reply final ↔
      ∃ sessionId fingerprint theirs ours, message.payload = .attest sessionId fingerprint ∧
        chat.progress.stage = .awaiting ∧ chat.roster.positionOf? message.sender = some theirs ∧
        chat.ownPosition? = some ours ∧ chat.agrees sessionId fingerprint = .ok true ∧
        ∃ (theirsInRange : theirs < chat.progress.size) (oursInRange : ours < chat.progress.size),
          let judged := chat.progress.judge theirs theirsInRange true
          (chat.withTally judged).announcement ours = .ok reply ∧
            (chat.withTally (judged.mark ours (by simpa [judged]))).settled = final := by
  cases payload : message.payload with
  | attest sessionId fingerprint =>
    simp only [receive, payload]
    simp only [bind_eq_ok, ensureAwaiting_eq_ok, positionOf_eq_ok, ownPosition_eq_ok,
      ensureInRange_eq_ok, confirm_eq_ok, attestSelf_eq_ok, finishIfComplete_eq, pure_eq_ok]
    refine ⟨fun received => ?_, fun received => ?_⟩
    · obtain ⟨_, _, ⟨awaiting, rfl⟩, theirs, _, ⟨theirPlace, rfl⟩, ours, _, ⟨ourPlace, rfl⟩, _, _,
        ⟨oursInRange, rfl⟩, _, _, ⟨theirsInRange, agrees, rfl⟩, _, _, ⟨_, announced, rfl⟩, _, _,
        settled, rfl, rfl⟩ := received
      obtain ⟨_, rfl⟩ := EStateM.Result.ok.inj settled
      exact ⟨sessionId, fingerprint, theirs, ours, rfl, awaiting, theirPlace, ourPlace, agrees,
        theirsInRange, oursInRange, announced, rfl⟩
    · obtain ⟨_, _, theirs, ours, same, awaiting, theirPlace, ourPlace, agrees, theirsInRange,
        oursInRange, announced, rfl⟩ := received
      obtain ⟨rfl, rfl⟩ := Payload.attest.inj same
      exact ⟨(), _, ⟨awaiting, rfl⟩, theirs, _, ⟨theirPlace, rfl⟩, ours, _, ⟨ourPlace, rfl⟩, (), _,
        ⟨oursInRange, rfl⟩, (), _, ⟨theirsInRange, agrees, rfl⟩, reply, _, ⟨_, announced, rfl⟩,
        (), _, rfl, rfl, rfl⟩
  | _ =>
    simp only [receive, payload]
    refine iff_of_false throw_ne_ok fun received => ?_
    obtain ⟨_, _, _, _, other, _⟩ := received
    contradiction

theorem keeps_of_start {reply : Option Message} (started : start chat = .ok reply final) :
    chat.Keeps final := by
  obtain ⟨_, _, _, _, rfl⟩ := start_eq_ok.mp started
  exact chat.keeps_withTally _

theorem keeps_of_check {sessionId : SessionId} {fingerprint : Digest} {agrees : Bool}
    (checked : check sessionId fingerprint position chat = .ok agrees final) : chat.Keeps final := by
  obtain ⟨_, _, rfl⟩ := check_eq_ok.mp checked
  exact chat.keeps_withTally _

theorem keeps_of_receive {message : Message} {reply : Option Message}
    (received : receive message chat = .ok reply final) : chat.Keeps final := by
  obtain ⟨_, _, _, _, _, _, _, _, _, _, _, _, rfl⟩ := receive_eq_ok.mp received
  exact (chat.keeps_withTally _).trans (Chat.keeps_settled _)

end Attesting

end GroupChat

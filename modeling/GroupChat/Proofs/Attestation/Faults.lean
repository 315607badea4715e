import GroupChat.Proofs.Attestation.Failures

/-!
The steps of an attestation with nothing known about the marks beforehand. Each access to them is
made as it stands: one outside of the marks is a fault, and so is taking a count of zero down. As
long as the count is exact no step comes upon a fault, and each does what it does with its accesses
known to be safe.
-/
namespace GroupChat

namespace Tally

variable {tally : Tally} {position : Nat}

def markAt? (tally : Tally) (position : Nat) : Option Tally := do
  let marked ← tally.marks[position]?
  if marked then return tally
  else return { tally with marks := tally.marks.set position true, count := tally.count + 1 }

def unmarkAt? (tally : Tally) (position : Nat) : Option Tally := do
  let marked ← tally.marks[position]?
  if marked then
    guard (0 < tally.count)
    return { tally with marks := tally.marks.set position false, count := tally.count - 1 }
  else return tally

theorem markAt?_eq (inRange : position < tally.size) :
    tally.markAt? position = some (tally.mark position inRange) := by
  rw [markAt?, mark, List.getElem?_eq_getElem inRange, Option.bind_eq_bind, Option.bind_some]
  split <;> rfl

theorem IsExact.unmarkAt?_eq (exact : tally.IsExact) (inRange : position < tally.size) :
    tally.unmarkAt? position = some (tally.unmark position inRange) := by
  rw [unmarkAt?, Tally.unmark, List.getElem?_eq_getElem inRange, Option.bind_eq_bind,
    Option.bind_some]
  cases marked : tally.marks[position] with
  | false => rfl
  | true =>
    have positive : 0 < tally.count := by
      rw [exact, List.count_pos_iff, ← marked]
      exact List.getElem_mem inRange
    have allowed : (guard (0 < tally.count) : Option Unit) = some () := if_pos positive
    rw [if_pos rfl, if_pos rfl, allowed]
    rfl

end Tally

inductive Halt where
  | fault
  | error (error : AttestationError)

/-- A step whose accesses to the marks are not known to be safe. -/
abbrev Exposed := EStateM Halt Chat

namespace Exposed

variable {α β : Type} {chat : Chat}

def ofStep (step : Attesting α) : Exposed α := fun chat =>
  match step chat with
  | .ok value final => .ok value final
  | .error error final => .error (.error error) final

def judgement (sessionId : SessionId) (fingerprint : Digest) : Attesting Bool := fun chat =>
  match chat.agrees sessionId fingerprint with
  | .ok agrees => .ok agrees chat
  | .error error => .error error chat

def ownAttestation : Attesting Message := fun chat =>
  match chat.attestation with
  | .ok message => .ok message chat
  | .error error => .error error chat

def access (change : Tally → Option Tally) : Exposed Unit := fun chat =>
  match change chat.progress with
  | some tally => .ok () (chat.withTally tally)
  | none => .error .fault chat

def check (sessionId : SessionId) (fingerprint : Digest) (position : Nat) : Exposed Bool := do
  ofStep (Attesting.ensureInRange position)
  let agrees ← ofStep (judgement sessionId fingerprint)
  access (Tally.unmarkAt? · position)
  if agrees then access (Tally.markAt? · position)
  return agrees

def confirm (sessionId : SessionId) (fingerprint : Digest) (position : Nat) : Exposed Unit := do
  if ← check sessionId fingerprint position then return
  else throw (.error (.disagrees position))

def attestSelf (position : Nat) : Exposed (Option Message) := do
  ofStep (Attesting.ensureInRange position)
  if (← get).progress.isMarked position then return none
  let message ← ofStep ownAttestation
  access (Tally.markAt? · position)
  return some message

def start : Exposed (Option Message) := do
  ofStep Attesting.begin
  let ours ← ofStep Attesting.ownPosition
  let message ← attestSelf ours
  ofStep (Attesting.setStage .awaiting)
  return message

def receive (message : Message) : Exposed (Option Message) :=
  match message.payload with
  | .attest sessionId fingerprint => do
    ofStep Attesting.ensureAwaiting
    let theirs ← ofStep (Attesting.positionOf message.sender)
    let ours ← ofStep Attesting.ownPosition
    ofStep (Attesting.ensureInRange ours)
    confirm sessionId fingerprint theirs
    let reply ← attestSelf ours
    ofStep Attesting.finishIfComplete
    return reply
  | _ => throw (.error (.notAttestation message.kind))

theorem ofStep_of_ok {step : Attesting α} {value : α} {final : Chat}
    (succeeded : step chat = .ok value final) : ofStep step chat = .ok value final := by
  simp only [ofStep, succeeded]

theorem ofStep_of_error {step : Attesting α} {error : AttestationError} {final : Chat}
    (failed : step chat = .error error final) :
    ofStep step chat = .error (.error error) final := by
  simp only [ofStep, failed]

theorem access_of_some {change : Tally → Option Tally} {tally : Tally}
    (changed : change chat.progress = some tally) :
    access change chat = .ok () (chat.withTally tally) := by
  simp only [access, changed]

theorem bind_eq {program : Exposed α} {step : Attesting α} {next : α → Exposed β}
    {further : α → Attesting β} (first : program chat = ofStep step chat)
    (second : ∀ value middle, step chat = .ok value middle →
      next value middle = ofStep (further value) middle) :
    (program >>= next) chat = ofStep (step >>= further) chat := by
  cases result : step chat with
  | ok value middle =>
    rw [ofStep_of_ok result] at first
    refine (bind_of_ok first).trans ((second value middle result).trans ?_)
    rw [ofStep, ofStep, bind_of_ok result]
  | error error middle =>
    rw [ofStep_of_error result] at first
    exact (bind_of_error first).trans (ofStep_of_error (bind_of_error result)).symm

/-- Where a step begins with a look at the range, only what it does inside of it is left to see. -/
theorem ensured_eq {position : Nat} {program : Exposed α} {step : Attesting α}
    (inside : position < chat.progress.size →
      program (chat.withTally chat.progress) = ofStep step chat)
    (outside : ¬ position < chat.progress.size → step chat =
      .error (.outOfRange position chat.progress.size) (chat.withTally chat.progress)) :
    (ofStep (Attesting.ensureInRange position) >>= fun _ => program) chat = ofStep step chat := by
  by_cases inRange : position < chat.progress.size
  · have found : Attesting.ensureInRange position chat = .ok () (chat.withTally chat.progress) :=
      Attesting.ensureInRange_eq_ok.mpr ⟨inRange, rfl⟩
    exact (bind_of_ok (ofStep_of_ok found)).trans (inside inRange)
  · have missing := Attesting.ensureInRange_eq_error.mpr ⟨inRange, rfl, rfl⟩
    rw [ofStep_of_error (outside inRange)]
    exact bind_of_error (ofStep_of_error missing)

theorem check_eq (exact : chat.progress.IsExact) (sessionId : SessionId) (fingerprint : Digest)
    (position : Nat) : check sessionId fingerprint position chat =
      ofStep (Attesting.check sessionId fingerprint position) chat := by
  refine ensured_eq (fun inRange => ?_) fun outside =>
    Attesting.check_eq_error.mpr ⟨.inl ⟨outside, rfl⟩, rfl⟩
  let begun := chat.withTally chat.progress
  cases verdict : chat.agrees sessionId fingerprint with
  | error cause =>
    have unjudged : judgement sessionId fingerprint begun = .error cause begun := by
      simp [judgement, begun, verdict]
    rw [ofStep_of_error (Attesting.check_eq_error.mpr ⟨.inr ⟨inRange, verdict⟩, rfl⟩)]
    exact bind_of_error (ofStep_of_error unjudged)
  | ok agrees =>
    have judged : judgement sessionId fingerprint begun = .ok agrees begun := by
      simp [judgement, begun, verdict]
    have cleared : access (Tally.unmarkAt? · position) begun =
        .ok () (chat.withTally (chat.progress.unmark position inRange)) :=
      access_of_some (exact.unmarkAt?_eq inRange)
    rw [ofStep_of_ok (Attesting.check_eq_ok.mpr ⟨inRange, verdict, rfl⟩)]
    refine (bind_of_ok (ofStep_of_ok judged)).trans ((bind_of_ok cleared).trans ?_)
    cases agrees with
    | false => rfl
    | true => exact bind_of_ok (access_of_some (Tally.markAt?_eq (by simpa using inRange)))

theorem confirm_eq (exact : chat.progress.IsExact) (sessionId : SessionId) (fingerprint : Digest)
    (position : Nat) : confirm sessionId fingerprint position chat =
      ofStep (Attesting.confirm sessionId fingerprint position) chat := by
  refine bind_eq (check_eq exact sessionId fingerprint position) fun agrees final _ => ?_
  cases agrees <;> rfl

theorem attestSelf_eq (position : Nat) (chat : Chat) :
    attestSelf position chat = ofStep (Attesting.attestSelf position) chat := by
  refine ensured_eq (fun inRange => ?_) fun outside =>
    Attesting.attestSelf_eq_error.mpr ⟨.inl ⟨outside, rfl⟩, rfl⟩
  let begun := chat.withTally chat.progress
  have current : (get : Exposed Chat) begun = .ok begun begun := rfl
  refine (bind_of_ok current).trans ?_
  by_cases already : chat.progress.isMarked position
  · have announced : chat.announcement position = .ok none := by
      rw [Chat.announcement, if_pos already]
    have kept : chat.progress.mark position inRange = chat.progress := by
      rw [Tally.isMarked_eq_getElem inRange] at already
      rw [Tally.mark, if_pos already]
    rw [ofStep_of_ok (Attesting.attestSelf_eq_ok.mpr ⟨inRange, announced, rfl⟩), kept]
    simp only [begun, Chat.progress_withTally, already]
    rfl
  · have unmarked : begun.progress.isMarked position = false := by simpa [begun] using already
    have own : begun.attestation = chat.attestation := rfl
    simp only [unmarked]
    cases attests : chat.attestation with
    | error cause =>
      have silent : ownAttestation begun = .error cause begun := by
        simp [ownAttestation, own, attests]
      have announced : chat.announcement position = .error cause := by
        rw [Chat.announcement, if_neg already, attests]
        rfl
      rw [ofStep_of_error (Attesting.attestSelf_eq_error.mpr ⟨.inr ⟨inRange, announced⟩, rfl⟩)]
      exact bind_of_error (ofStep_of_error silent)
    | ok message =>
      have composed : ownAttestation begun = .ok message begun := by
        simp [ownAttestation, own, attests]
      have announced : chat.announcement position = .ok (some message) :=
        Chat.announcement_eq_some.mpr ⟨unmarked, attests⟩
      have marked : access (Tally.markAt? · position) begun =
          .ok () (chat.withTally (chat.progress.mark position inRange)) :=
        access_of_some (Tally.markAt?_eq inRange)
      rw [ofStep_of_ok (Attesting.attestSelf_eq_ok.mpr ⟨inRange, announced, rfl⟩)]
      exact (bind_of_ok (ofStep_of_ok composed)).trans (bind_of_ok marked)

theorem start_eq (chat : Chat) : start chat = ofStep Attesting.start chat := by
  refine bind_eq rfl fun _ begun _ => bind_eq rfl fun ours located _ => ?_
  refine bind_eq (attestSelf_eq ours located) fun reply marked _ => ?_
  exact bind_eq rfl fun _ _ _ => rfl

theorem receive_eq (exact : chat.progress.IsExact) (message : Message) :
    receive message chat = ofStep (Attesting.receive message) chat := by
  cases payload : message.payload with
  | attest sessionId fingerprint =>
    simp only [receive, Attesting.receive, payload]
    refine bind_eq rfl fun _ begun waits => bind_eq rfl fun theirs located found => ?_
    refine bind_eq rfl fun ours known place => bind_eq rfl fun _ inside ensured => ?_
    -- Up to here no mark has been touched.
    obtain ⟨_, rfl⟩ := Attesting.ensureAwaiting_eq_ok.mp waits
    obtain ⟨_, rfl⟩ := Attesting.positionOf_eq_ok.mp found
    obtain ⟨_, rfl⟩ := Attesting.ownPosition_eq_ok.mp place
    obtain ⟨_, rfl⟩ := Attesting.ensureInRange_eq_ok.mp ensured
    refine bind_eq (confirm_eq exact sessionId fingerprint theirs) fun _ confirmed _ => ?_
    refine bind_eq (attestSelf_eq ours confirmed) fun reply marked _ => ?_
    exact bind_eq rfl fun _ _ _ => rfl
  | _ =>
    simp only [receive, Attesting.receive, payload]
    rfl

end Exposed

end GroupChat

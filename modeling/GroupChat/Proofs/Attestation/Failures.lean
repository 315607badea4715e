import GroupChat.Proofs.Attestation.Verdicts

/-!
How the steps of an attestation fail, and how they leave the chat then. A step that fails has at most
begun the attestation, unless it has cleared the mark of a participant who does not agree.
-/
namespace GroupChat.Attesting

variable {α : Type} {chat final : Chat} {position : Nat} {error : AttestationError}

theorem withPosition_eq_error {next : (tally : Tally) → position < tally.size → Attesting α} :
    withPosition position next chat = .error error final ↔
      (¬ position < chat.progress.size ∧ error = .outOfRange position chat.progress.size ∧
        final = chat.withTally chat.progress) ∨
      ∃ inRange : position < chat.progress.size,
        next chat.progress inRange (chat.withTally chat.progress) = .error error final := by
  by_cases inRange : position < chat.progress.size
  · simp [withPosition, inRange]
  · simp [withPosition, inRange, eq_comm]

theorem check_eq_error {sessionId : SessionId} {fingerprint : Digest} :
    check sessionId fingerprint position chat = .error error final ↔
      ((¬ position < chat.progress.size ∧ error = .outOfRange position chat.progress.size) ∨
        (position < chat.progress.size ∧ chat.agrees sessionId fingerprint = .error error)) ∧
      final = chat.withTally chat.progress := by
  refine withPosition_eq_error.trans ?_
  simp only [Chat.agrees_withTally]
  cases chat.agrees sessionId fingerprint with
  | error cause => by_cases inRange : position < chat.progress.size <;> simp [inRange, eq_comm]
  | ok agrees => simp [and_assoc]

theorem confirm_eq_error {sessionId : SessionId} {fingerprint : Digest} :
    confirm sessionId fingerprint position chat = .error error final ↔
      check sessionId fingerprint position chat = .error error final ∨
      (error = .disagrees position ∧
        check sessionId fingerprint position chat = .ok false final) := by
  rw [confirm, bind_eq_error]
  refine or_congr_right ⟨fun failed => ?_, fun failed => ?_⟩
  · obtain ⟨agrees, middle, checked, failed⟩ := failed
    cases agrees with
    | true => exact absurd failed pure_ne_error
    | false =>
      obtain ⟨rfl, rfl⟩ := EStateM.Result.error.inj failed
      exact ⟨rfl, checked⟩
  · obtain ⟨rfl, checked⟩ := failed
    exact ⟨false, final, checked, rfl⟩

theorem attestSelf_eq_error :
    attestSelf position chat = .error error final ↔
      ((¬ position < chat.progress.size ∧ error = .outOfRange position chat.progress.size) ∨
        (position < chat.progress.size ∧ chat.announcement position = .error error)) ∧
      final = chat.withTally chat.progress := by
  refine withPosition_eq_error.trans ?_
  by_cases inRange : position < chat.progress.size
  · have marked := Tally.isMarked_eq_getElem inRange
    have attestation : (chat.withTally chat.progress).attestation = chat.attestation := rfl
    by_cases already : chat.progress.isMarked position
    · rw [already] at marked
      simp [Chat.announcement, already, ← marked, and_assoc]
    · simp only [Chat.announcement, already, ← marked, attestation]
      cases chat.attestation with
      | error cause => simp [Except.map, inRange, eq_comm (a := final)]
      | ok message => simp [Except.map, inRange]
  · simp [inRange]

theorem ensureInRange_eq_error :
    ensureInRange position chat = .error error final ↔
      ¬ position < chat.progress.size ∧ error = .outOfRange position chat.progress.size ∧
        final = chat.withTally chat.progress := by
  refine withPosition_eq_error.trans (or_iff_left fun impossible => ?_)
  obtain ⟨_, failed⟩ := impossible
  exact pure_ne_error failed

theorem positionOf_eq_error {name : String} :
    positionOf name chat = .error error final ↔
      chat.roster.positionOf? name = none ∧ error = .notAParticipant name ∧ final = chat := by
  unfold positionOf
  cases chat.roster.positionOf? name <;> simp [eq_comm]

theorem ownPosition_eq_error :
    ownPosition chat = .error error final ↔
      chat.ownPosition? = none ∧ error = .notAParticipant chat.name ∧ final = chat :=
  positionOf_eq_error

theorem ensureAwaiting_eq_error :
    ensureAwaiting chat = .error error final ↔
      chat.progress.stage ≠ .awaiting ∧ error = .finished ∧
        final = chat.withTally chat.progress := by
  by_cases awaiting : chat.progress.stage = .awaiting <;> simp [ensureAwaiting, awaiting, eq_comm]

theorem final_of_start_eq_error (failed : start chat = .error error final) :
    final = chat.withTally chat.progress := by
  have begun : begin chat = .ok () (chat.withTally chat.progress) := rfl
  rw [start, bind_of_ok begun] at failed
  simp only [bind_eq_error, ownPosition_eq_error, ownPosition_eq_ok, attestSelf_eq_error] at failed
  obtain ⟨_, _, rfl⟩ | ⟨_, _, ⟨_, rfl⟩, ⟨_, rfl⟩ | ⟨_, _, _, staged | ⟨_, _, _, returned⟩⟩⟩ := failed
  · rfl
  · rfl
  · contradiction
  · exact absurd returned pure_ne_error

theorem receive_of_disagreement {message : Message} {sessionId : SessionId} {fingerprint : Digest}
    {theirs ours : Nat} (payload : message.payload = .attest sessionId fingerprint)
    (awaiting : chat.progress.stage = .awaiting)
    (theirPlace : chat.roster.positionOf? message.sender = some theirs)
    (ourPlace : chat.ownPosition? = some ours) (theirsInRange : theirs < chat.progress.size)
    (oursInRange : ours < chat.progress.size)
    (disagrees : chat.agrees sessionId fingerprint = .ok false) :
    receive message chat = .error (.disagrees theirs)
      (chat.withTally (chat.progress.judge theirs theirsInRange false)) := by
  let begun := chat.withTally chat.progress
  have waits : ensureAwaiting chat = .ok () begun := ensureAwaiting_eq_ok.mpr ⟨awaiting, rfl⟩
  have sender : positionOf message.sender begun = .ok theirs begun :=
    positionOf_eq_ok.mpr ⟨theirPlace, rfl⟩
  have own : ownPosition begun = .ok ours begun := ownPosition_eq_ok.mpr ⟨ourPlace, rfl⟩
  have inside : ensureInRange ours begun = .ok () begun :=
    ensureInRange_eq_ok.mpr ⟨oursInRange, rfl⟩
  have checked : check sessionId fingerprint theirs begun =
      .ok false (chat.withTally (chat.progress.judge theirs theirsInRange false)) :=
    check_eq_ok.mpr ⟨theirsInRange, disagrees, rfl⟩
  have unconfirmed := confirm_eq_error.mpr (.inr ⟨rfl, checked⟩)
  simp only [receive, payload]
  refine (bind_of_ok waits).trans ((bind_of_ok sender).trans ((bind_of_ok own).trans ?_))
  exact (bind_of_ok inside).trans (bind_of_error unconfirmed)

/-- Once the attestation of the sender has been confirmed, nothing can fail any more. -/
theorem attestSelf_of_confirm {sessionId : SessionId} {fingerprint : Digest} {theirs ours : Nat}
    {result : Unit} (oursInRange : ours < chat.progress.size)
    (confirmed : confirm sessionId fingerprint theirs chat = .ok result final) :
    ∃ reply settled, attestSelf ours final = .ok reply settled := by
  obtain ⟨theirsInRange, agreed, rfl⟩ := confirm_eq_ok.mp confirmed
  obtain ⟨reply, announced⟩ := Chat.announcement_of_agrees agreed
    (chat.progress.judge theirs theirsInRange true) ours
  exact ⟨reply, _, attestSelf_eq_ok.mpr ⟨by simpa using oursInRange, announced, rfl⟩⟩

end GroupChat.Attesting

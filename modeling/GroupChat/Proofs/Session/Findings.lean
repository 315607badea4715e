import GroupChat.Proofs.Session.Calls

/-!
The marks of an attestation, as a record of what calls have found out. A call may find a participant
to agree with us or to disagree, and says so in its answer. A position is marked if something has been
found out about it since the attestation began, and what was found out last was that it agrees.
-/
namespace GroupChat

def Call.Attests : Call → Prop
  | .start | .check .. | .receive _ => True
  | _ => False

namespace Chat

variable {chat final : Chat} {calls : List Call} {call : Call} {position : Nat}

/-- What the answer to a call says about a position: that its participant agrees with us, that it does
not, or nothing. Whoever gives out an attestation agrees with it. -/
def finding? (chat : Chat) (position : Nat) : Call → Option Bool
  | .check sessionId fingerprint checked =>
    match Attesting.check sessionId fingerprint checked chat with
    | .ok agrees _ => if checked = position then some agrees else none
    | .error _ _ => none
  | .receive message =>
    match Attesting.receive message chat with
    | .ok reply _ =>
      if chat.roster.positionOf? message.sender = some position ∨
          (reply.isSome ∧ chat.ownPosition? = some position) then some true
      else none
    | .error error _ => if error = .disagrees position then some false else none
  | .start =>
    match Attesting.start chat with
    | .ok reply _ => if reply.isSome ∧ chat.ownPosition? = some position then some true else none
    | .error _ _ => none
  | _ => none

def findings (chat : Chat) (position : Nat) : List Call → List Bool
  | [] => []
  | call :: calls =>
    (chat.finding? position call).toList ++ (chat.after call).findings position calls

theorem finding?_check (chat : Chat) (position : Nat) {sessionId : SessionId} {fingerprint : Digest}
    {checked : Nat} {agrees : Bool}
    (result : Attesting.check sessionId fingerprint checked chat = .ok agrees final) :
    chat.finding? position (.check sessionId fingerprint checked) =
      if checked = position then some agrees else none := by
  simp only [finding?, result]

theorem finding?_receive (chat : Chat) (position : Nat) {message : Message} {reply : Option Message}
    (result : Attesting.receive message chat = .ok reply final) :
    chat.finding? position (.receive message) =
      if chat.roster.positionOf? message.sender = some position ∨
        (reply.isSome ∧ chat.ownPosition? = some position) then some true else none := by
  simp only [finding?, result]

theorem finding?_start (chat : Chat) (position : Nat) {reply : Option Message}
    (result : Attesting.start chat = .ok reply final) :
    chat.finding? position .start =
      if reply.isSome ∧ chat.ownPosition? = some position then some true else none := by
  simp only [finding?, result]

theorem after_receive_of_error {message : Message} {error : AttestationError}
    (result : Attesting.receive message chat = .error error final) :
    chat.after (.receive message) = final := by
  rw [after, Attesting.leaves, result]
  rfl

theorem isMarked_after_check (chat : Chat) (sessionId : SessionId) (fingerprint : Digest)
    (checked position : Nat) :
    (chat.after (.check sessionId fingerprint checked)).progress.isMarked position =
      (chat.finding? position (.check sessionId fingerprint checked)).getD
        (chat.progress.isMarked position) := by
  rw [after, Attesting.leaves]
  cases result : Attesting.check sessionId fingerprint checked chat with
  | error error final =>
    obtain ⟨_, rfl⟩ := Attesting.check_eq_error.mp result
    simp [finding?, result, finalState]
  | ok agrees final =>
    obtain ⟨inRange, _, rfl⟩ := Attesting.check_eq_ok.mp result
    rw [finding?_check chat position result, finalState, progress_withTally, Tally.isMarked_judge]
    by_cases same : checked = position
    · simp [same]
    · simp [same, Ne.symm same]

theorem isMarked_after_start (chat : Chat) (position : Nat) :
    (chat.after .start).progress.isMarked position =
      (chat.finding? position .start).getD (chat.progress.isMarked position) := by
  rw [after, Attesting.leaves]
  cases result : Attesting.start chat with
  | error error final =>
    rw [Attesting.final_of_start_eq_error result]
    simp [finding?, result, finalState]
  | ok reply final =>
    obtain ⟨ours, inRange, located, announced, rfl⟩ := Attesting.start_eq_ok.mp result
    rw [finding?_start chat position result, finalState, progress_withTally,
      Tally.isMarked_withStage, Tally.isMarked_mark, located]
    by_cases own : position = ours
    · subst own
      cases reply with
      | none => simp [announcement_eq_none.mp announced]
      | some message => simp
    · simp [own, Ne.symm own]

theorem isMarked_after_receive (chat : Chat) (message : Message) (position : Nat) :
    (chat.after (.receive message)).progress.isMarked position =
      (chat.finding? position (.receive message)).getD (chat.progress.isMarked position) := by
  rw [after, Attesting.leaves]
  cases result : Attesting.receive message chat with
  | error error final =>
    obtain ⟨agreeing, rfl | rfl⟩ | ⟨_, _, theirs, inRange, _, _, _, _, rfl, rfl⟩ :=
      Attesting.receive_eq_error result
    · simp [finding?, result, finalState, agreeing]
    · simp [finding?, result, finalState, agreeing]
    · simp only [finding?, result, finalState, progress_withTally, Tally.isMarked_judge]
      by_cases same : position = theirs
      · simp [same]
      · simp [same, Ne.symm same]
  | ok reply final =>
    obtain ⟨_, _, theirs, ours, _, _, theirPlace, ourPlace, _, theirsInRange, oursInRange,
      announced, rfl⟩ := Attesting.receive_eq_ok.mp result
    have settled (chat : Chat) : chat.settled.progress.isMarked position =
        chat.progress.isMarked position := by
      rw [progress, tally_settled, Option.getD_some, Tally.isMarked_withStage]
    rw [finding?_receive chat position result, finalState, settled, progress_withTally,
      Tally.isMarked_mark, Tally.isMarked_judge, theirPlace, ourPlace]
    by_cases sender : position = theirs
    · simp [sender]
    by_cases own : position = ours
    · subst own
      cases reply with
      | none =>
        have marked := announcement_eq_none.mp announced
        rw [progress_withTally, Tally.isMarked_judge, if_neg sender] at marked
        simp [marked, Ne.symm sender]
      | some message => simp
    · simp [sender, own, Ne.symm sender, Ne.symm own]

theorem isMarked_after (attests : call.Attests) (chat : Chat) (position : Nat) :
    (chat.after call).progress.isMarked position =
      (chat.finding? position call).getD (chat.progress.isMarked position) := by
  cases call with
  | start => exact isMarked_after_start chat position
  | check sessionId fingerprint checked =>
    exact isMarked_after_check chat sessionId fingerprint checked position
  | receive message => exact isMarked_after_receive chat message position
  | _ => exact attests.elim

theorem isMarked_afterAll (attest : ∀ call ∈ calls, call.Attests) (chat : Chat) (position : Nat) :
    (chat.afterAll calls).progress.isMarked position =
      (chat.findings position calls).getLast?.getD (chat.progress.isMarked position) := by
  induction calls generalizing chat with
  | nil => rfl
  | cons call calls ih =>
    obtain ⟨first, others⟩ := List.forall_mem_cons.mp attest
    have further : chat.afterAll (call :: calls) = (chat.after call).afterAll calls := rfl
    rw [further, ih others, isMarked_after first, findings, List.getLast?_append]
    cases (chat.after call).findings position calls |>.getLast? with
    | some last => rfl
    | none => cases chat.finding? position call <;> rfl

theorem findings_append (chat : Chat) (position : Nat) (front back : List Call) :
    chat.findings position (front ++ back) =
      chat.findings position front ++ (chat.afterAll front).findings position back := by
  induction front generalizing chat with
  | nil => rfl
  | cons call front ih =>
    rw [List.cons_append, findings, findings, ih, List.append_assoc]
    rfl

theorem getLast?_findings_eq_some {last : Bool} :
    (chat.findings position calls).getLast? = some last ↔
      ∃ front call back, calls = front ++ call :: back ∧
        (chat.afterAll front).finding? position call = some last ∧
        ((chat.afterAll front).after call).findings position back = [] := by
  refine ⟨fun found => ?_, fun ⟨front, call, back, split, found, silent⟩ => ?_⟩
  · induction calls generalizing chat with
    | nil => contradiction
    | cons call calls ih =>
      rw [findings, List.getLast?_append] at found
      cases further : ((chat.after call).findings position calls).getLast? with
      | none =>
        rw [further, Option.none_or] at found
        refine ⟨[], call, calls, rfl, ?_, List.getLast?_eq_none_iff.mp further⟩
        change chat.finding? position call = some last
        cases first : chat.finding? position call with
        | none => simp [first] at found
        | some finding => simpa [first] using found
      | some other =>
        rw [further, Option.some_or] at found
        obtain ⟨front, later, back, rfl, found, silent⟩ := ih (further.trans found)
        exact ⟨call :: front, later, back, rfl, found, silent⟩
  · rw [split, findings_append, findings, found, silent, List.append_nil]
    exact List.getLast?_concat

theorem isMarked_progress_iff :
    chat.progress.isMarked position ↔
      ∃ tally, chat.tally = some tally ∧ tally.isMarked position := by
  rw [progress]
  cases chat.tally with
  | none => simp [Tally.isMarked_fresh]
  | some tally => simp

/-- From the beginning of an attestation on, the positions that are marked are those about which
something has been found out, and last that they agree. -/
theorem isMarked_iff_last_finding
    (begins : chat.tally = none ∨ chat.tally = some (.fresh chat.roster.size))
    (attest : ∀ call ∈ calls, call.Attests) (position : Nat) :
    (∃ tally, (chat.afterAll calls).tally = some tally ∧ tally.isMarked position) ↔
      (chat.findings position calls).getLast? = some true := by
  have unmarked : chat.progress.isMarked position = false := by
    obtain idle | fresh := begins
    · rw [progress, idle]
      exact Tally.isMarked_fresh _ position
    · rw [progress, fresh]
      exact Tally.isMarked_fresh _ position
  rw [← isMarked_progress_iff, isMarked_afterAll attest, unmarked]
  cases (chat.findings position calls).getLast? <;> simp

theorem isMarked_iff_last_finding_pair :
    let chat := assembled "alice" [.alice, .bob] (.zero _)
    let calls : List Call :=
      [.start, .receive (attestationOfBob [.alice, .bob]), .check (.filled _ 1) (.zero _) 1]
    chat.tally = none ∧ (∀ call ∈ calls, call.Attests) ∧
      (∃ tally, (chat.afterAll calls).tally = some tally ∧ tally.isMarked 0) ∧
      ¬ ∃ tally, (chat.afterAll calls).tally = some tally ∧ tally.isMarked 1 := by
  intro chat calls
  have idle : chat.tally = none := rfl
  have attest : ∀ call ∈ calls, call.Attests := by simp [calls, Call.Attests]
  refine ⟨idle, attest, ?_, ?_⟩
  · exact (isMarked_iff_last_finding (.inl idle) attest 0).mpr (by decide +kernel)
  · rw [isMarked_iff_last_finding (.inl idle) attest 1]
    decide +kernel

end Chat

end GroupChat

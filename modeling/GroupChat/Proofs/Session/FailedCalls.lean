import GroupChat.Proofs.Session.Counting

/-!
What calls leave behind that fail. An attestation may have begun, for the table as it is, and a mark is
cleared whose position was found to disagree. Nothing else is touched, and in particular nothing is
marked: once a message is accepted, it is taken.
-/
namespace GroupChat

theorem Tally.IsExact.withdraw_eq_set {tally : Tally} (exact : tally.IsExact) (position : Nat) :
    tally.withdraw position =
      { tally with
        marks := tally.marks.set position false
        count := (tally.marks.set position false).count true } := by
  by_cases inRange : position < tally.size
  · have judged := exact.judge inRange false
    rw [IsExact, marks_judge] at judged
    let cleared := tally.judge position inRange false
    calc
      tally.withdraw position = ⟨cleared.marks, cleared.count, cleared.stage⟩ :=
        Tally.withdraw_eq inRange
      _ = _ := by rw [marks_judge, judged, stage_judge]
  · rw [withdraw, dif_neg inRange, List.set_eq_of_length_le (Nat.le_of_not_lt inRange), ← exact]

namespace Chat

variable {chat final : Chat} {error : AttestationError} {position : Nat}

/-- A chat is as it was, but that an attestation may have begun which has no marks yet. -/
def IsIntact (chat final : Chat) : Prop :=
  final = chat ∨
    (chat.tally = none ∧ final = { chat with tally := some (.fresh chat.roster.size) })

theorem isIntact_begun (chat : Chat) : chat.IsIntact (chat.withTally chat.progress) := by
  cases held : chat.tally with
  | none =>
    refine .inr ⟨held, ?_⟩
    rw [progress, held]
    rfl
  | some tally =>
    refine .inl ?_
    rw [progress, held, Option.getD_some, withTally, ← held]

def unmarking (chat : Chat) (position : Nat) : Chat :=
  let marks := chat.progress.marks.set position false
  chat.withTally { chat.progress with marks, count := marks.count true }

theorem withTally_withdraw (exact : chat.progress.IsExact) (position : Nat) :
    chat.withTally (chat.progress.withdraw position) = chat.unmarking position :=
  congrArg chat.withTally (exact.withdraw_eq_set position)

/-- A call that fails leaves a chat intact, unless it finds a position to disagree. Then it clears the
mark of that position, and so does a check that answers no. -/
theorem intact_unless_disagrees (reachable : chat.Reachable) :
    (∀ sessionId fingerprint position error final,
      Attesting.check sessionId fingerprint position chat = .error error final →
        chat.IsIntact final) ∧
    (∀ sessionId fingerprint position final,
      Attesting.check sessionId fingerprint position chat = .ok false final →
        final = chat.unmarking position) ∧
    (∀ error final, Attesting.start chat = .error error final → chat.IsIntact final) ∧
    (∀ message error final, Attesting.receive message chat = .error error final →
      match error with
      | .notAttestation _ => final = chat
      | .disagrees position => final = chat.unmarking position
      | _ => chat.IsIntact final) ∧
    ∀ message ours accepted, Attesting.accept message chat = .ok ours accepted →
      ∃ reply final, Attesting.conclude ours accepted = .ok reply final ∧
        Attesting.receive message chat = .ok reply final := by
  have exact := reachable.isCounted.progress
  refine ⟨fun _ _ _ _ _ failed => ?_, fun _ _ position _ checked => ?_, fun _ _ failed => ?_,
    fun message error final failed => ?_, fun message ours accepted passed => ?_⟩
  · obtain ⟨_, rfl⟩ := Attesting.check_eq_error.mp failed
    exact chat.isIntact_begun
  · obtain ⟨inRange, _, rfl⟩ := Attesting.check_eq_ok.mp checked
    rw [← withTally_withdraw exact, Tally.withdraw_eq inRange]
  · rw [Attesting.final_of_start_eq_error failed]
    exact chat.isIntact_begun
  · obtain ⟨_, rfl⟩ := Attesting.receive_eq_error_iff.mp failed
    cases error with
    | notAttestation => rfl
    | disagrees position => exact withTally_withdraw exact position
    | _ => exact chat.isIntact_begun
  · obtain ⟨reply, final, concluded⟩ := Attesting.conclude_of_accept passed
    refine ⟨reply, final, concluded, ?_⟩
    rw [Attesting.receive_eq_bind]
    exact (bind_of_ok passed).trans concluded

theorem intact_unless_disagrees_late :
    let chat := (assembled "alice" [.alice, .bob] (.zero _)).after
      (.receive (attestationOfBob [.alice, .bob]))
    chat.Reachable ∧
      (∃ final, Attesting.receive (attestationOfBob [.alice, .bob]) chat = .error .finished final ∧
        chat.IsIntact final) ∧
      ∃ final, Attesting.check (.filled _ 1) (.zero _) 1 chat = .ok false final ∧
        final = chat.unmarking 1 := by
  intro chat
  have reachable : chat.Reachable := (reachable_assembled ..).after _
  obtain ⟨_, disagreed, _, failed, _⟩ := intact_unless_disagrees reachable
  have finished : chat.progress.stage = .finished := by decide +kernel
  have clear : chat.IsClear (attestationOfBob [.alice, .bob]) 1 := .payload rfl
  have refused := Attesting.receive_eq_error_iff.mpr ⟨⟨1, .finished finished, clear⟩, rfl⟩
  have inRange : 1 < chat.progress.size := by decide +kernel
  have apart : chat.agrees (.filled _ 1) (.zero _) = .ok false := by decide +kernel
  have checked := Attesting.check_eq_ok.mpr ⟨inRange, apart, rfl⟩
  exact ⟨reachable, ⟨_, refused, failed _ _ _ refused⟩, _, checked, disagreed _ _ _ _ checked⟩

end Chat

end GroupChat

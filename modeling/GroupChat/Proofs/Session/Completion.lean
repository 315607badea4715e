import GroupChat.Proofs.Session.Counting

/-!
What it means that an attestation has finished. It finishes with every position confirmed, and stays
so through all calls but one: a check made after the end that finds a participant to disagree takes
the mark away and leaves the attestation finished.
-/
namespace GroupChat

theorem Tally.IsExact.isComplete_judge {tally : Tally} {position : Nat} (exact : tally.IsExact)
    (inRange : position < tally.size) (complete : tally.isComplete) :
    (tally.judge position inRange true).isComplete := by
  refine (exact.judge inRange true).isComplete_iff.mpr fun other otherInRange => ?_
  rw [size_judge] at otherInRange
  rw [isMarked_judge]
  split
  · rfl
  · exact exact.isComplete_iff.mp complete other otherInRange

theorem Tally.IsExact.not_isComplete_judge {tally : Tally} {position : Nat} (exact : tally.IsExact)
    (inRange : position < tally.size) : ¬ (tally.judge position inRange false).isComplete := by
  intro complete
  have all := (exact.judge inRange false).isComplete_iff.mp complete
  have marked := all position (by simpa using inRange)
  rw [isMarked_judge, if_pos rfl] at marked
  contradiction

namespace Chat

variable {chat final : Chat} {call : Call}

def IsConclusive (chat : Chat) : Prop :=
  ∀ tally, chat.tally = some tally → tally.stage = .finished → tally.count = tally.size

/-- A check after the end that finds a participant to disagree. -/
def Unsettles (chat : Chat) (call : Call) : Prop :=
  ∃ sessionId fingerprint position final, call = .check sessionId fingerprint position ∧
    chat.tally.map Tally.stage = some .finished ∧
    Attesting.check sessionId fingerprint position chat = .ok false final

theorem stage_progress (chat : Chat) :
    chat.progress.stage = .finished ↔ chat.tally.map Tally.stage = some .finished := by
  rw [progress]
  cases chat.tally with
  | none => simp [Tally.fresh]
  | some tally => simp

namespace IsConclusive

theorem of_tally_eq {tally : Tally} (held : chat.tally = some tally)
    (conclusive : tally.stage = .finished → tally.isComplete) : chat.IsConclusive := by
  intro other same finished
  rw [held, Option.some.injEq] at same
  subst same
  exact of_decide_eq_true (conclusive finished)

theorem progress (conclusive : chat.IsConclusive) (finished : chat.progress.stage = .finished) :
    chat.progress.isComplete := by
  have ended := chat.stage_progress.mp finished
  obtain ⟨tally, begun, stage⟩ := Option.map_eq_some_iff.mp ended
  rw [Chat.progress, begun]
  exact decide_eq_true (conclusive tally begun stage)

theorem becomes (conclusive : chat.IsConclusive) (counted : chat.IsCounted)
    (becomes : chat.Becomes call final) (settled : ¬ chat.Unsettles call) :
    final.IsConclusive := by
  have exact := counted.progress
  cases becomes with
  | arranged => exact conclusive
  | joined => exact conclusive
  | dropped => exact fun tally absent => nomatch absent
  | renewed => exact of_tally_eq rfl fun finished => nomatch finished
  | kept => exact conclusive
  | begun => exact of_tally_eq rfl conclusive.progress
  | started started =>
    obtain ⟨ours, inRange, _, _, rfl⟩ := Attesting.start_eq_ok.mp started
    exact of_tally_eq rfl fun finished => nomatch finished
  | checked checked =>
    rename_i sessionId fingerprint position agrees
    obtain ⟨inRange, _, rfl⟩ := Attesting.check_eq_ok.mp checked
    refine of_tally_eq rfl fun finished => ?_
    rw [Tally.stage_judge] at finished
    cases agrees with
    | true => exact exact.isComplete_judge inRange (conclusive.progress finished)
    | false =>
      have ended := chat.stage_progress.mp finished
      exact absurd ⟨_, _, _, _, rfl, ended, checked⟩ settled
  | refused awaiting =>
    refine of_tally_eq rfl fun finished => ?_
    rw [Tally.stage_judge, awaiting] at finished
    contradiction
  | received received =>
    obtain ⟨_, _, theirs, ours, _, awaiting, _, _, _, _, _, _, rfl⟩ :=
      Attesting.receive_eq_ok.mp received
    refine of_tally_eq (tally_settled _) fun finished => ?_
    dsimp only at finished
    split at finished
    · rename_i complete
      exact complete
    · rw [progress_withTally, Tally.stage_mark, Tally.stage_judge, awaiting] at finished
      contradiction

end IsConclusive

theorem Unsettles.not_isConclusive (counted : chat.IsCounted) (unsettles : chat.Unsettles call) :
    ¬ (chat.after call).IsConclusive := by
  obtain ⟨sessionId, fingerprint, position, final, rfl, ended, checked⟩ := unsettles
  intro conclusive
  have reached : chat.after (.check sessionId fingerprint position) = final := by
    rw [after, Attesting.leaves, checked]
    rfl
  rw [reached] at conclusive
  obtain ⟨inRange, _, rfl⟩ := Attesting.check_eq_ok.mp checked
  have finished := chat.stage_progress.mpr ended
  have full := conclusive _ rfl (by rw [Tally.stage_judge, finished])
  exact counted.progress.not_isComplete_judge inRange (decide_eq_true full)

/-- In a run of calls, an attestation that has finished has every position confirmed throughout if
and only if no check after the end finds a participant to disagree. -/
theorem isConclusive_iff (settings : ChatSettings) (name : String) (calls : List Call) :
    (∀ front back, calls = front ++ back →
      ((Chat.new settings name).afterAll front).IsConclusive) ↔
    ∀ front call back, calls = front ++ call :: back →
      ¬ ((Chat.new settings name).afterAll front).Unsettles call := by
  have counted (front : List Call) : ((Chat.new settings name).afterAll front).IsCounted :=
    Reachable.isCounted ⟨settings, name, front, rfl⟩
  refine ⟨fun conclusive front call back split unsettles => ?_, fun settled front => ?_⟩
  · have reached := conclusive (front ++ [call]) back (by simp [split])
    rw [afterAll_concat] at reached
    exact unsettles.not_isConclusive (counted front) reached
  · -- The run up to any place is followed call by call.
    induction front using List.reverseRecOn with
    | nil => exact fun _ _ _ absent => nomatch absent
    | append_singleton front call ih =>
      intro back split
      have place : calls = front ++ call :: back := by simp [split]
      rw [afterAll_concat]
      exact (ih _ place).becomes (counted front) (becomes _ call) (settled _ _ _ place)

/-- Alice and Bob have attested to each other, and then Alice checks an attestation that Bob would
have given for another session. -/
def lateCheck : List Call :=
  assembly [.alice, .bob] (.zero _) ++
    [.receive (attestationOfBob [.alice, .bob]), .check (.filled _ 1) (.zero _) 1]

theorem exists_finished_unconfirmed :
    ∃ calls tally, ((Chat.new .default "alice").afterAll calls).tally = some tally ∧
      tally.stage = .finished ∧ tally.count ≠ tally.size :=
  ⟨lateCheck, ⟨[true, false], 1, .finished⟩, by decide +kernel, rfl, by decide⟩

end Chat

end GroupChat

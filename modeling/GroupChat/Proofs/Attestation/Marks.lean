import GroupChat.Attestation.Tally

/-!
The marks of a tally and their number. Marking and clearing set one mark and touch no other, and the
count stays the number of marks.
-/
namespace GroupChat.Tally

variable {tally : Tally} {position : Nat}

theorem isMarked_eq_getElem (inRange : position < tally.size) :
    tally.isMarked position = tally.marks[position] := by
  rw [isMarked, List.getD_eq_getElem?_getD, List.getElem?_eq_getElem inRange, Option.getD_some]

theorem set_self {mark : Bool} (inRange : position < tally.size)
    (same : tally.marks[position] = mark) : tally.marks.set position mark = tally.marks := by
  rw [← same]
  exact List.set_getElem_self inRange

theorem marks_mark (tally : Tally) (position : Nat) (inRange : position < tally.size) :
    (tally.mark position inRange).marks = tally.marks.set position true := by
  unfold mark
  split
  · rename_i marked
    exact (set_self inRange marked).symm
  · rfl

theorem marks_unmark (tally : Tally) (position : Nat) (inRange : position < tally.size) :
    (tally.unmark position inRange).marks = tally.marks.set position false := by
  unfold unmark
  split
  · rfl
  · rename_i unmarked
    exact (set_self inRange (Bool.not_eq_true _ ▸ unmarked)).symm

theorem marks_judge (tally : Tally) (position : Nat) (inRange : position < tally.size)
    (agrees : Bool) :
    (tally.judge position inRange agrees).marks = tally.marks.set position agrees := by
  unfold judge
  cases agrees with
  | true => rw [if_pos rfl, marks_mark, marks_unmark, List.set_set]
  | false => exact marks_unmark tally position inRange

@[simp] theorem stage_mark (tally : Tally) (position : Nat) (inRange : position < tally.size) :
    (tally.mark position inRange).stage = tally.stage := by
  unfold mark
  split <;> rfl

@[simp] theorem stage_unmark (tally : Tally) (position : Nat) (inRange : position < tally.size) :
    (tally.unmark position inRange).stage = tally.stage := by
  unfold unmark
  split <;> rfl

@[simp] theorem stage_judge (tally : Tally) (position : Nat) (inRange : position < tally.size)
    (agrees : Bool) : (tally.judge position inRange agrees).stage = tally.stage := by
  cases agrees <;> simp [judge]

theorem isMarked_fresh (size position : Nat) : (fresh size).isMarked position = false := by
  simp only [isMarked, fresh, List.getD_eq_getElem?_getD, List.getElem?_replicate]
  split <;> rfl

theorem isMarked_of_marks {changed : Tally} {mark : Bool} (inRange : position < tally.size)
    (marks : changed.marks = tally.marks.set position mark) (other : Nat) :
    changed.isMarked other = if other = position then mark else tally.isMarked other := by
  rw [isMarked, isMarked, marks, List.getD_eq_getElem?_getD, List.getElem?_set]
  by_cases same : position = other
  · subst same
    rw [size] at inRange
    simp [inRange]
  · rw [if_neg same, if_neg fun reversed => same reversed.symm, List.getD_eq_getElem?_getD]

theorem isMarked_mark (inRange : position < tally.size) (other : Nat) :
    (tally.mark position inRange).isMarked other =
      if other = position then true else tally.isMarked other :=
  isMarked_of_marks inRange (marks_mark tally position inRange) other

theorem isMarked_judge (inRange : position < tally.size) (agrees : Bool) (other : Nat) :
    (tally.judge position inRange agrees).isMarked other =
      if other = position then agrees else tally.isMarked other :=
  isMarked_of_marks inRange (marks_judge tally position inRange agrees) other

@[simp] theorem isMarked_withStage (tally : Tally) (stage : Stage) (position : Nat) :
    { tally with stage }.isMarked position = tally.isMarked position := rfl

def IsExact (tally : Tally) : Prop := tally.count = tally.marks.count true

theorem isExact_fresh (size : Nat) : (fresh size).IsExact := by
  simp [IsExact, fresh, List.count_replicate]

namespace IsExact

theorem mark (exact : tally.IsExact) (inRange : position < tally.size) :
    (tally.mark position inRange).IsExact := by
  unfold Tally.mark
  split
  · exact exact
  · rename_i unmarked
    rw [IsExact, List.count_set inRange, ← exact]
    simp [unmarked]

theorem unmark (exact : tally.IsExact) (inRange : position < tally.size) :
    (tally.unmark position inRange).IsExact := by
  unfold Tally.unmark
  split
  · rename_i marked
    rw [IsExact, List.count_set inRange, ← exact]
    simp [marked]
  · exact exact

theorem judge (exact : tally.IsExact) (inRange : position < tally.size) (agrees : Bool) :
    (tally.judge position inRange agrees).IsExact := by
  unfold Tally.judge
  cases agrees with
  | true => exact (exact.unmark inRange).mark _
  | false => exact exact.unmark inRange

theorem withStage (exact : tally.IsExact) (stage : Stage) : { tally with stage }.IsExact := exact

theorem isComplete_iff (exact : tally.IsExact) :
    tally.isComplete ↔ ∀ position < tally.size, tally.isMarked position := by
  rw [isComplete, decide_eq_true_iff, exact, size, List.count_eq_length]
  refine ⟨fun all position inRange => ?_, fun all mark member => ?_⟩
  · rw [isMarked_eq_getElem inRange]
    exact (all _ (List.getElem_mem inRange)).symm
  · obtain ⟨position, inRange, rfl⟩ := List.mem_iff_getElem.mp member
    have marked := all position inRange
    rw [isMarked_eq_getElem inRange] at marked
    exact marked.symm

end IsExact

end GroupChat.Tally

import GroupChat.Proofs.SlotList.Refinement
import Mathlib.Algebra.Order.Group.Multiset
import Mathlib.Tactic.Abel

/-!
What becomes of the elements of a list. Each of them leaves it once: it is handed back to whoever
takes it out, or it is destroyed, at the latest when the list itself goes. Nothing is lost, and
nothing goes twice. Elements are counted as often as they occur. They may carry a number that no
order looks at, so this says something of every single one of them.
-/
namespace GroupChat.SlotList

variable {α : Type} {collation : Collation α} {list : SlotList collation}

def Operation.added : Operation α → List α
  | .insert element | .pushBack element | .pushFront element => [element]
  | .pushAll elements => elements
  | _ => []

def Answer.handedBack : Answer α → List α
  | .taken element => element.toList
  | _ => []

def Answer.destroyed : Answer α → List α
  | .gone elements => elements
  | _ => []

/-- Elements only come and go: none is replaced where it stands, and no other list takes over. -/
def Operation.Transfers : Operation α → Prop
  | .modify .. | .modifyAt .. | .copy => False
  | _ => True

namespace Sequence

variable {sequence next final : Sequence α} {operation : Operation α} {answer : Answer α}
variable {operations : List (Operation α)} {answers : List (Answer α)}

def contents (sequence : Sequence α) : Multiset α := ↑(sequence.map Prod.snd)

theorem contents_append (front back : Sequence α) :
    contents (front ++ back) = contents front + contents back := by
  rw [contents, List.map_append, ← Multiset.coe_add]
  rfl

theorem contents_cons (entry : Handle × α) (sequence : Sequence α) :
    contents (entry :: sequence) = {entry.2} + contents sequence := rfl

theorem contents_middle (front back : Sequence α) (entry : Handle × α) :
    contents (front ++ entry :: back) = contents (front ++ back) + {entry.2} := by
  rw [contents_append, contents_append, contents_cons, add_assoc, add_comm {entry.2}]

theorem Step.conserves (step : Step collation sequence operation answer next)
    (transfers : operation.Transfers) :
    sequence.contents + operation.added =
      next.contents + (answer.handedBack + answer.destroyed) := by
  cases step with
  | insert => simp [contents_middle, Operation.added, Answer.handedBack, Answer.destroyed]
  | pushBack => simp [contents_middle, Operation.added, Answer.handedBack, Answer.destroyed]
  | pushFront =>
    rw [contents_cons, add_comm {_}]
    exact (add_zero _).symm
  | pushAll =>
    rw [contents_append]
    exact (add_zero _).symm
  | erase => simp [contents_middle, Operation.added, Answer.handedBack, Answer.destroyed]
  | discard => simp [contents_middle, Operation.added, Answer.handedBack, Answer.destroyed]
  | clear => exact add_comm _ _
  | erase_absent => rfl
  | discard_absent => rfl
  | _ => exact transfers.elim

theorem Run.conserves (run : Run collation sequence operations answers final)
    (transfers : ∀ operation ∈ operations, operation.Transfers) :
    sequence.contents + operations.flatMap Operation.added =
      final.contents +
        (answers.flatMap Answer.handedBack + answers.flatMap Answer.destroyed) := by
  induction run with
  | nil => rfl
  | @cons sequence middle final operation answer operations answers step _ ih =>
    obtain ⟨first, others⟩ := List.forall_mem_cons.mp transfers
    have now := step.conserves first
    have later := ih others
    simp only [List.flatMap_cons, ← Multiset.coe_add]
    calc sequence.contents + (operation.added + operations.flatMap Operation.added)
        = middle.contents + (answer.handedBack + answer.destroyed) +
            operations.flatMap Operation.added := by rw [← add_assoc, now]
      _ = final.contents + (answers.flatMap Answer.handedBack +
            answers.flatMap Answer.destroyed) + (answer.handedBack + answer.destroyed) := by
          rw [add_right_comm, later]
      _ = _ := by abel

end Sequence

namespace IsLinked

variable (linked : list.IsLinked)
include linked

theorem erase_of_failed {handle : Handle} (failed : (list.erase handle).1 = none) :
    (list.erase handle).2 = list := by
  obtain ⟨front, element, back, split⟩ | absent := place_cases list.entries handle
  · rw [(linked.erase_eq split).1] at failed
    contradiction
  · rw [linked.erase_of_absent absent]

theorem run_of_cleared (operations : List (Operation α)) :
    Sequence.Run collation [] operations (list.clear.2.performAll operations).1
      (list.clear.2.performAll operations).2.entries := by
  obtain ⟨_, cleared, nothing⟩ := linked.clear_eq
  have run := cleared.run operations
  rwa [nothing] at run

end IsLinked

/-- Whatever has become of a list before, the elements that it holds and those that are put into it
leave it once each, handed back or destroyed, when it goes in the end. A new list holds none.
Removals that fail contribute nothing. Clearing a list and letting go of it destroy what is left
from the first element to the last, and a cleared list may be used again. -/
theorem leaves_once (before : List (Operation α)) {operations : List (Operation α)}
    (transfers : ∀ operation ∈ operations, operation.Transfers) :
    let list := ((empty : SlotList collation).performAll before).2
    let run := list.performAll operations
    (↑(list.elements ++ operations.flatMap Operation.added) : Multiset α) =
        ↑(run.1.flatMap Answer.handedBack) +
          ↑(run.1.flatMap Answer.destroyed ++ run.2.dismantle) ∧
      (∀ handle, ((run.2.erase handle).1 = none → (run.2.erase handle).2 = run.2) ∧
        ((run.2.discard handle).1 = [] → (run.2.discard handle).2 = run.2)) ∧
      run.2.clear.1 = run.2.elements ∧ run.2.dismantle = run.2.elements ∧
      run.2.clear.2.Shows [] ∧
      ∀ more, ∃ sequence,
        Sequence.Run collation [] more (run.2.clear.2.performAll more).1 sequence ∧
        (run.2.clear.2.performAll more).2.Shows sequence := by
  intro list run
  have held : list.IsLinked := IsLinked.empty.performAll before
  have linked : run.2.IsLinked := held.performAll operations
  obtain ⟨destroyed, cleared, nothing⟩ := linked.clear_eq
  have balance := (held.run operations).conserves transfers
  have rest : Sequence.contents run.2.entries = run.2.dismantle := congrArg _ destroyed.symm
  have shows := cleared.shows_entries
  rw [nothing] at shows
  refine ⟨?_, fun handle => ⟨linked.erase_of_failed, fun failed => ?_⟩, destroyed, destroyed, shows,
    fun more => ⟨_, linked.run_of_cleared more, (cleared.performAll more).shows_entries⟩⟩
  · rw [← Multiset.coe_add, ← Multiset.coe_add, ← rest]
    exact balance.trans (by abel)
  · exact linked.erase_of_failed (Option.toList_eq_nil_iff.mp failed)

theorem leaves_once_reused :
    let operations : List (Operation Nat) :=
      [.insert 5, .insert 3, .erase ⟨0, 0⟩, .erase ⟨0, 0⟩, .insert 3, .discard ⟨1, 0⟩, .clear,
        .pushAll [8, 7], .discard ⟨1, 0⟩]
    let run := (empty : SlotList (Collation.ofOrd fun n : Nat => toString n)).performAll operations
    (∀ operation ∈ operations, operation.Transfers) ∧
      run.1.flatMap Answer.handedBack = [5] ∧ run.1.flatMap Answer.destroyed = [3, 3] ∧
      run.2.dismantle = [8, 7] ∧
      (↑[5, 3, 3, 8, 7] : Multiset Nat) = {5} + ↑[3, 3, 8, 7] := by
  intro operations run
  have transfers : ∀ operation ∈ operations, operation.Transfers := by
    simp [operations, Operation.Transfers]
  have handedBack : run.1.flatMap Answer.handedBack = [5] := by decide +kernel
  have destroyed : run.1.flatMap Answer.destroyed = [3, 3] := by decide +kernel
  have left : run.2.dismantle = [8, 7] := by decide +kernel
  have balance : (↑(([] : List Nat) ++ operations.flatMap Operation.added) : Multiset Nat) =
      ↑(run.1.flatMap Answer.handedBack) + ↑(run.1.flatMap Answer.destroyed ++ run.2.dismantle) :=
    (@leaves_once Nat _ [] operations transfers).1
  rw [handedBack, destroyed, left] at balance
  exact ⟨transfers, handedBack, destroyed, left, balance⟩

end GroupChat.SlotList

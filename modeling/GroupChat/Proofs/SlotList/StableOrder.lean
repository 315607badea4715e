import GroupChat.Proofs.SlotList.Lookups

/-!
Lists into which elements only go where the order puts them. What is left in such a list stands as a
stable sort would put it: in order, and elements that compare equal in the order in which they were
inserted. Both together leave only one list. Equal elements are kept in their order by every step, which
is also why the first one that is found for a target is the one that was inserted first.
-/
namespace GroupChat

/-! ### Beginnings of lists in order -/

section Beginnings

variable {β : Type} {list : List β} {holds : β → Bool}

theorem not_of_mem_dropWhile (passes : list.Pairwise fun a b => holds b → holds a) {entry : β}
    (member : entry ∈ list.dropWhile holds) : ¬ holds entry := by
  induction list with
  | nil => contradiction
  | cons first rest ih =>
    obtain ⟨back, further⟩ := List.pairwise_cons.mp passes
    by_cases begins : holds first
    · rw [List.dropWhile_cons_of_pos begins] at member
      exact ih further member
    · rw [List.dropWhile_cons_of_neg begins, List.mem_cons] at member
      obtain rfl | member := member
      · exact begins
      · exact fun there => begins (back entry member there)

theorem countP_append_eq_length {front back : List β} (before : ∀ entry ∈ front, holds entry)
    (behind : ∀ entry ∈ back, ¬ holds entry) : (front ++ back).countP holds = front.length := by
  rw [List.countP_append, List.countP_eq_length.mpr before, List.countP_eq_zero.mpr behind,
    Nat.add_zero]

end Beginnings

namespace SlotList

variable {α : Type} {collation : Collation α} {list : SlotList collation}

namespace Sequence

/-! ### Stable sorts -/

def allows (collation : Collation α) (a b : Handle × α) : Bool := (collation.compare a.2 b.2).isLE

/-- What compares equal to a target, in the order in which it stands. -/
def equals (collation : Collation α) (sequence : Sequence α) (target : α) : Sequence α :=
  sequence.filter fun entry => collation.compare target entry.2 = .eq

/-- A sequence is another one in order, with equal elements in the order in which they were. -/
structure Sorts (collation : Collation α) (original sorted : Sequence α) : Prop where
  ordered : sorted.Pairwise fun a b => allows collation a b
  stable (target : α) : sorted.equals collation target = original.equals collation target

variable {sequence other original sorted : Sequence α} {entry : Handle × α} {target : α}

theorem mem_equals : entry ∈ sequence.equals collation target ↔
    entry ∈ sequence ∧ collation.compare target entry.2 = .eq := by
  rw [equals, List.mem_filter, decide_eq_true_eq]

theorem find?_equals (collation : Collation α) (sequence : Sequence α) (target : α) :
    sequence.find? (fun entry => collation.compare target entry.2 = .eq) =
      (sequence.equals collation target).head? := List.head?_filter.symm

theorem equals_append (collation : Collation α) (front back : Sequence α) (target : α) :
    equals collation (front ++ back) target =
      equals collation front target ++ equals collation back target := List.filter_append front back

theorem Sorts.nil : Sorts collation [] [] where
  ordered := .nil
  stable _ := rfl

theorem Sorts.filter (sorts : Sorts collation original sorted) (kept : Handle × α → Bool) :
    Sorts collation (original.filter kept) (sorted.filter kept) where
  ordered := sorts.ordered.filter kept
  stable target := by
    have swap (sequence : Sequence α) : equals collation (sequence.filter kept) target =
        (sequence.equals collation target).filter kept := List.filter_comm _ _ sequence
    rw [swap, swap, sorts.stable]

theorem Sorts.find?_eq (sorts : Sorts collation original sorted) (target : α) :
    sorted.find? (fun entry => collation.compare target entry.2 = .eq) =
      original.find? fun entry => collation.compare target entry.2 = .eq := by
  rw [find?_equals, find?_equals, sorts.stable]

variable [Std.TransCmp collation.compare]

theorem allows_iff {a b : Handle × α} :
    allows collation a b ↔ collation.compare b.2 a.2 ≠ .lt :=
  ⟨Std.OrientedCmp.not_lt_of_isLE, fun stays =>
    by_contra fun leaves => stays (Std.OrientedCmp.lt_of_not_isLE leaves)⟩

theorem allows_trans (a b c : Handle × α) (first : allows collation a b)
    (second : allows collation b c) : allows collation a c :=
  Std.TransCmp.isLE_trans first second

theorem allows_total (a b : Handle × α) : allows collation a b || allows collation b a := by
  rw [Bool.or_eq_true, allows_iff, allows_iff, ← not_and_or]
  exact fun both => Std.OrientedCmp.not_lt_of_lt both.1 both.2

theorem allows_of_eq {a b : Handle × α} (first : collation.compare target a.2 = .eq)
    (second : collation.compare target b.2 = .eq) : allows collation a b := by
  rw [allows, ← Std.TransCmp.congr_left first, second]
  rfl

theorem allows_of_mem_cons {first : Handle × α}
    (ordered : (first :: sequence).Pairwise fun a b => allows collation a b)
    (member : entry ∈ first :: sequence) : allows collation first entry := by
  obtain rfl | member := List.mem_cons.mp member
  · exact allows_of_eq Std.ReflCmp.compare_self Std.ReflCmp.compare_self
  · exact (List.pairwise_cons.mp ordered).1 entry member

theorem mem_of_equals (same : ∀ target, sequence.equals collation target =
    other.equals collation target) (member : entry ∈ sequence) : entry ∈ other := by
  have self : collation.compare entry.2 entry.2 = .eq := Std.ReflCmp.compare_self
  have found := mem_equals.mpr ⟨member, self⟩
  rw [same] at found
  exact (mem_equals.mp found).1

theorem eq_of_equals (ordered : sequence.Pairwise fun a b => allows collation a b)
    (otherOrdered : other.Pairwise fun a b => allows collation a b)
    (same : ∀ target, sequence.equals collation target = other.equals collation target) :
    sequence = other := by
  induction sequence generalizing other with
  | nil =>
    refine (List.eq_nil_iff_forall_not_mem.mpr fun entry member => ?_).symm
    exact List.not_mem_nil (mem_of_equals (fun target => (same target).symm) member)
  | cons a rest ih =>
    cases other with
    | nil => exact absurd (mem_of_equals same List.mem_cons_self) List.not_mem_nil
    | cons b others =>
      have before : allows collation a b := allows_of_mem_cons ordered
        (mem_of_equals (fun target => (same target).symm) List.mem_cons_self)
      have behind : allows collation b a :=
        allows_of_mem_cons otherOrdered (mem_of_equals same List.mem_cons_self)
      have level : collation.compare a.2 b.2 = .eq := Std.OrientedCmp.isLE_antisymm before behind
      have heads := same a.2
      simp only [equals, List.filter_cons, Std.ReflCmp.compare_self, level, decide_true,
        if_true] at heads
      obtain rfl := (List.cons.inj heads).1
      rw [ih ordered.of_cons otherOrdered.of_cons]
      intro target
      have whole := same target
      rw [equals, equals, List.filter_cons, List.filter_cons] at whole
      split at whole
      · exact (List.cons.inj whole).2
      · exact whole

theorem sorts_mergeSort (sequence : Sequence α) :
    Sorts collation sequence (sequence.mergeSort (allows collation)) where
  ordered := List.pairwise_mergeSort allows_trans allows_total sequence
  stable target := by
    have level : (sequence.equals collation target).Pairwise fun a b => allows collation a b :=
      List.pairwise_of_forall_mem_list fun a first b second =>
        allows_of_eq (mem_equals.mp first).2 (mem_equals.mp second).2
    have kept := (List.sublist_mergeSort allows_trans allows_total level List.filter_sublist).filter
      fun entry : Handle × α => collation.compare target entry.2 = .eq
    simp only [equals, List.filter_filter, Bool.and_self] at kept
    exact (kept.eq_of_length
      ((List.mergeSort_perm sequence (allows collation)).filter _).length_eq.symm).symm

theorem Sorts.eq_mergeSort (sorts : Sorts collation original sorted) :
    sorted = original.mergeSort (allows collation) := by
  have merged : Sorts collation original _ := sorts_mergeSort original
  exact eq_of_equals sorts.ordered merged.ordered fun target =>
    (sorts.stable target).trans (merged.stable target).symm

/-! ### What changes a sorted sequence -/

theorem equals_cons_eq {added : Handle × α}
    (greater : ∀ entry ∈ sequence, collation.compare added.2 entry.2 = .lt) (target : α) :
    equals collation (added :: sequence) target =
      equals collation (sequence ++ [added]) target := by
  rw [equals_append, ← List.singleton_append, equals_append]
  by_cases level : collation.compare target added.2 = .eq
  · have none : equals collation sequence target = [] := by
      refine List.filter_eq_nil_iff.mpr fun entry member => ?_
      rw [decide_eq_true_eq, Std.TransCmp.lt_of_eq_of_lt level (greater entry member)]
      nofun
    rw [none, List.append_nil, List.nil_append]
  · have none : equals collation [added] target = [] := by
      rw [equals, List.filter_cons_of_neg (by rwa [decide_eq_true_eq]), List.filter_nil]
    rw [none, List.append_nil, List.nil_append]

theorem Sorts.insert (sorts : Sorts collation original sorted) (added : Handle × α) :
    Sorts collation (original ++ [added])
      (sorted.takeWhile (fun entry => ¬ collation.compare added.2 entry.2 = .lt) ++
        added :: sorted.dropWhile (fun entry => ¬ collation.compare added.2 entry.2 = .lt)) := by
  generalize within : (fun entry : Handle × α =>
    decide ¬ collation.compare added.2 entry.2 = .lt) = stays
  have stays_iff (entry : Handle × α) : stays entry ↔ allows collation entry added := by
    rw [← within, allows_iff, decide_eq_true_eq]
  have whole := List.takeWhile_append_dropWhile (p := stays) (l := sorted)
  have before : ∀ entry ∈ sorted.takeWhile stays, allows collation entry added :=
    fun entry member => (stays_iff entry).mp (List.mem_takeWhile_imp member)
  have behind : ∀ entry ∈ sorted.dropWhile stays, collation.compare added.2 entry.2 = .lt := by
    intro entry member
    have leaves := not_of_mem_dropWhile (sorts.ordered.imp fun {a b} order stay =>
      (stays_iff a).mpr (allows_trans a b added order ((stays_iff b).mp stay))) member
    rw [stays_iff, allows_iff, not_not] at leaves
    exact leaves
  have ordered := sorts.ordered
  rw [← whole, List.pairwise_append] at ordered
  obtain ⟨front, back, across⟩ := ordered
  refine ⟨List.pairwise_append.mpr ⟨front, List.pairwise_cons.mpr ⟨?_, back⟩, ?_⟩, fun target => ?_⟩
  · intro entry member
    exact allows_iff.mpr (Std.OrientedCmp.not_lt_of_lt (behind entry member))
  · intro entry first other second
    obtain rfl | second := List.mem_cons.mp second
    · exact before entry first
    · exact across entry first other second
  · rw [equals_append, equals_cons_eq behind, ← equals_append, ← List.append_assoc, whole,
      equals_append, equals_append, sorts.stable]

theorem findIdx?_eq (ordered : sequence.Pairwise fun a b => allows collation a b) (target : α) :
    sequence.findIdx? (fun entry => collation.compare target entry.2 = .eq) =
      (sequence.find? fun entry => collation.compare target entry.2 = .eq).map fun _ =>
        sequence.countP fun entry => collation.compare entry.2 target = .lt := by
  cases found : sequence.find? fun entry => collation.compare target entry.2 = .eq with
  | none =>
    rw [Option.map_none, List.findIdx?_eq_none_iff]
    intro entry member
    exact Bool.eq_false_of_not_eq_true (List.find?_eq_none.mp found entry member)
  | some entry =>
    obtain ⟨level, front, back, rfl, different⟩ := List.find?_eq_some_iff_append.mp found
    simp only [decide_eq_true_eq, Bool.not_eq_true', decide_eq_false_iff_not] at level different
    have reverse : collation.compare entry.2 target = .eq := Std.OrientedCmp.eq_symm level
    obtain ⟨_, behind, across⟩ := List.pairwise_append.mp ordered
    obtain ⟨behind, _⟩ := List.pairwise_cons.mp behind
    have less : ∀ other ∈ front, collation.compare other.2 target = .lt := by
      intro other member
      have before := across other member entry List.mem_cons_self
      rw [allows, Std.TransCmp.congr_right reverse] at before
      exact (Ordering.isLE_iff_eq_lt_or_eq_eq.mp before).resolve_right fun same =>
        different other member (Std.OrientedCmp.eq_symm same)
    have notLess : ∀ other ∈ entry :: back, collation.compare other.2 target ≠ .lt := by
      intro other member
      obtain rfl | member := List.mem_cons.mp member
      · rw [reverse]
        nofun
      · have after := allows_iff.mp (behind other member)
        rwa [Std.TransCmp.congr_right reverse] at after
    rw [findIdx?_eq_length (fun other member => decide_eq_false (different other member))
      (decide_eq_true level), Option.map_some, countP_append_eq_length]
    · exact fun other member => decide_eq_true (less other member)
    · exact fun other member => mt of_decide_eq_true (notLess other member)

end Sequence

/-! ### Lists in order -/

def Operation.Orderly : Operation α → Prop
  | .insert _ | .erase _ | .discard _ => True
  | _ => False

namespace Sequence

def left (sequence : Sequence α) : Operation α → Answer α → Sequence α
  | .insert element, .handle handle => sequence ++ [(handle, element)]
  | .erase handle, _ | .discard handle, _ => sequence.filter fun entry => entry.1 ≠ handle
  | _, _ => sequence

def leftAfter (sequence : Sequence α) (answered : List (Operation α × Answer α)) : Sequence α :=
  answered.foldl (fun sequence (operation, answer) => sequence.left operation answer) sequence

/-- What is left of all that operations have inserted, in the order in which it was inserted. -/
def survivors (operations : List (Operation α)) (answers : List (Answer α)) : Sequence α :=
  leftAfter [] (operations.zip answers)

end Sequence

namespace IsLinked

open Sequence

theorem entries_erase (linked : list.IsLinked) (handle : Handle) :
    (list.erase handle).2.entries = list.entries.filter fun entry => entry.1 ≠ handle := by
  have kept {sequence : Sequence α} (absent : handle ∉ sequence.map Prod.fst) :
      sequence.filter (fun entry => entry.1 ≠ handle) = sequence := by
    refine List.filter_eq_self.mpr fun entry member => decide_eq_true fun same => absent ?_
    exact same ▸ List.mem_map_of_mem member
  obtain ⟨front, element, back, split⟩ | absent := place_cases list.entries handle
  · have nodup := linked.handles_nodup
    rw [split] at nodup
    have outside := fresh_of_nodup nodup
    rw [(linked.erase_eq split).2, split, List.filter_append, List.filter_cons_of_neg (by simp),
      ← List.filter_append, kept outside]
  · rw [linked.erase_of_absent absent, kept absent]

variable [Std.TransCmp collation.compare] {original : Sequence α} {operation : Operation α}

theorem sorts_perform (linked : list.IsLinked) (sorts : Sorts collation original list.entries)
    (orderly : operation.Orderly) :
    Sorts collation (original.left operation (list.perform operation).1)
      (list.perform operation).2.entries := by
  cases operation with
  | insert element =>
    rw [SlotList.perform, linked.entries_insert element]
    exact sorts.insert ((list.insert element).1, element)
  | erase handle | discard handle =>
    simp only [SlotList.perform, discard_eq, linked.entries_erase handle]
    exact sorts.filter _
  | _ => exact orderly.elim

theorem sorts_performAll (linked : list.IsLinked) (sorts : Sorts collation original list.entries)
    {operations : List (Operation α)} (orderly : ∀ operation ∈ operations, operation.Orderly) :
    Sorts collation (original.leftAfter (operations.zip (list.performAll operations).1))
      (list.performAll operations).2.entries := by
  induction operations generalizing list original with
  | nil => exact sorts
  | cons operation operations ih =>
    obtain ⟨first, others⟩ := List.forall_mem_cons.mp orderly
    exact ih (linked.perform operation) (linked.sorts_perform sorts first) others

end IsLinked

/-- However elements are inserted and taken out, those that are left stand as a stable sort puts them,
and what is found for a target is the first of them to have been inserted. -/
theorem sorted_stably [Std.TransCmp collation.compare] {operations : List (Operation α)}
    (orderly : ∀ operation ∈ operations, operation.Orderly) :
    let made := (empty : SlotList collation).performAll operations
    let survivors := Sequence.survivors operations made.1
    made.2.entries = survivors.mergeSort (fun a b => (collation.compare a.2 b.2).isLE) ∧
      made.2.elements =
        (survivors.map Prod.snd).mergeSort (fun a b => (collation.compare a b).isLE) ∧
      ∀ target,
        let earliest := survivors.find? fun entry => collation.compare target entry.2 = .eq
        made.2.locate? target = earliest.map Prod.fst ∧
          (made.2.locate? target).bind made.2.element? = earliest.map Prod.snd ∧
          made.2.rank? target = earliest.map fun _ =>
            survivors.countP fun entry => collation.compare entry.2 target = .lt := by
  intro made survivors
  have linked : made.2.IsLinked := IsLinked.empty.performAll operations
  have sorts : Sequence.Sorts collation survivors made.2.entries :=
    IsLinked.empty.sorts_performAll Sequence.Sorts.nil orderly
  have entries := sorts.eq_mergeSort
  refine ⟨entries, ?_, fun target => ?_⟩
  · rw [elements, entries]
    exact List.map_mergeSort fun _ _ _ _ => rfl
  · have first := sorts.find?_eq target
    have located : made.2.locate? target =
        (survivors.find? fun entry => collation.compare target entry.2 = .eq).map Prod.fst :=
      congrArg _ first
    refine ⟨located, ?_, ?_⟩
    · rw [located]
      cases found : survivors.find? fun entry => collation.compare target entry.2 = .eq with
      | none => rfl
      | some entry =>
        rw [found] at first
        exact linked.element?_eq_some_iff.mpr (List.mem_of_find?_eq_some first)
    · rw [linked.shows_entries.rank target, Sequence.findIdx?_eq sorts.ordered, first, entries,
        (List.mergeSort_perm survivors _).countP_eq]

theorem sorted_stably_reused :
    let collation : Collation (Nat × String) := { compare := compareOn Prod.fst, print := Prod.snd }
    let operations : List (Operation (Nat × String)) :=
      [.insert (2, "a"), .insert (1, "b"), .insert (2, "c"), .insert (1, "d"), .erase ⟨0, 0⟩,
        .insert (2, "e")]
    let list := ((empty : SlotList collation).performAll operations).2
    (∀ operation ∈ operations, operation.Orderly) ∧
      list.handles = [⟨1, 0⟩, ⟨3, 0⟩, ⟨2, 0⟩, ⟨0, 1⟩] ∧
      [(1, "b"), (2, "c"), (1, "d"), (2, "e")].mergeSort (fun a b => (collation.compare a b).isLE) =
        [(1, "b"), (1, "d"), (2, "c"), (2, "e")] ∧
      list.locate? (2, "") = some ⟨2, 0⟩ ∧ list.rank? (2, "") = some 2 := by
  intro collation operations list
  have transitive : Std.TransCmp collation.compare :=
    inferInstanceAs (Std.TransCmp (compareOn Prod.fst))
  have orderly : ∀ operation ∈ operations, operation.Orderly := by
    simp [operations, Operation.Orderly]
  have left : Sequence.survivors operations
      ((empty : SlotList collation).performAll operations).1 =
        [(⟨1, 0⟩, 1, "b"), (⟨2, 0⟩, 2, "c"), (⟨3, 0⟩, 1, "d"), (⟨0, 1⟩, 2, "e")] := by
    decide +kernel
  have stands : list.elements = [(1, "b"), (1, "d"), (2, "c"), (2, "e")] := by
    decide +kernel
  obtain ⟨_, elements, found⟩ := @sorted_stably _ collation _ _ orderly
  obtain ⟨located, _, rank⟩ := found (2, "")
  rw [left] at elements located rank
  exact ⟨orderly, by decide +kernel, elements.symm.trans stands, located, rank⟩

end SlotList

end GroupChat

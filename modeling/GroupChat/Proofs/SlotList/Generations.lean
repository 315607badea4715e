import GroupChat.Proofs.SlotList.Refinement
import Mathlib.Algebra.Group.Nat.Defs

/-!
How long a handle is good. A slot moves on to the next generation whenever it gives up its node, and
at no other time. There are `2 ^ 32` generations, and then the first one comes again. So a handle is
good as long as its slot has a node and has given up none since the handle was given out, or has
given up so many that its generation has come around.

All this is about one list. A copy is another one, with slots of its own.
-/
namespace GroupChat.SlotList

variable {α : Type} {collation : Collation α} {list final : SlotList collation}
variable {handle : Handle} {index : Nat}

def isOccupied (list : SlotList collation) (index : Nat) : Bool := (list.nodeAt? index).isSome

def generationOf (list : SlotList collation) (index : Nat) : UInt32 :=
  (list.handleOf index).generation

theorem handleOf_eq_iff (list : SlotList collation) (handle : Handle) :
    handle = list.handleOf handle.index ↔ handle.generation = list.generationOf handle.index := by
  obtain ⟨index, generation⟩ := handle
  simp [generationOf, handleOf]

/-- How many times a slot gives up its node while operations are performed. No operation makes it do so
more than once. -/
def removals (list : SlotList collation) (index : Nat) : List (Operation α) → Nat
  | [] => 0
  | operation :: operations =>
    let next := (list.perform operation).2
    (if list.isOccupied index && !next.isOccupied index then 1 else 0) +
      next.removals index operations

/-! ### What makes a slot move on -/

def Ages (list final : SlotList collation) (index : Nat) : Prop :=
  final.generationOf index =
    list.generationOf index + if list.isOccupied index && !final.isOccupied index then 1 else 0

structure Retains (list final : SlotList collation) : Prop where
  handleOf : final.handleOf = list.handleOf
  occupied : ∀ index, list.isOccupied index → final.isOccupied index

namespace Retains

theorem refl (list : SlotList collation) : list.Retains list := ⟨rfl, fun _ => id⟩

theorem trans {middle : SlotList collation} (first : list.Retains middle)
    (second : middle.Retains final) : list.Retains final where
  handleOf := second.handleOf.trans first.handleOf
  occupied index there := second.occupied index (first.occupied index there)

theorem ages (retains : list.Retains final) (index : Nat) : list.Ages final index := by
  have same : final.generationOf index = list.generationOf index :=
    congrArg Handle.generation (congrFun retains.handleOf index)
  rw [Ages, same]
  cases there : list.isOccupied index with
  | false => simp
  | true => simp [retains.occupied index there]

theorem modifyNode (list : SlotList collation) (index : Nat) (change : Node α → Node α) :
    list.Retains (list.modifyNode index change) where
  handleOf := list.handleOf_modifyNode index change
  occupied other there := by
    rw [isOccupied, nodeAt?_modifyNode]
    split
    · rw [Option.isSome_map]
      exact there
    · exact there

theorem modify? {change : α → α} (found : list.modify? handle change = some final) :
    list.Retains final := by
  obtain ⟨_, _, rfl⟩ := Option.map_eq_some_iff.mp found
  exact .modifyNode list handle.index _

theorem insertBefore (tracks : list.TracksFree) (element : α) (next : Option Nat) :
    list.Retains (list.insertBefore element next).2 where
  handleOf := list.handleOf_insertBefore element next
  occupied index there := by
    rw [isOccupied, insertBefore_eq, tracks.nodeAt?_splice, Option.isSome_map]
    split
    · rfl
    · exact there

end Retains

/-- Slots may have given up their nodes, each of them once, and none has got one. -/
structure Sheds (list final : SlotList collation) : Prop where
  ages : ∀ index, list.Ages final index
  occupied : ∀ index, final.isOccupied index → list.isOccupied index

theorem generationOf_cut {node : Node α} (occupied : list.nodeAt? index = some node) :
    (list.cut index node).generationOf index = list.generationOf index + 1 := by
  obtain ⟨slot, found, _⟩ := Option.bind_eq_some_iff.mp occupied
  rw [generationOf, cut, handleOf_linkPrevious, handleOf_linkNext]
  simp [generationOf, handleOf, release, Array.getElem?_modify, found]

theorem isOccupied_cut (list : SlotList collation) (index other : Nat) (node : Node α) :
    (list.cut index node).isOccupied other = (list.isOccupied other && other != index) := by
  rw [isOccupied, nodeAt?_cut, Option.isSome_map, isOccupied]
  by_cases same : index = other
  · simp [same]
  · simp [same, Ne.symm same]

namespace Sheds

theorem refl (list : SlotList collation) : list.Sheds list :=
  ⟨(Retains.refl list).ages, fun _ => id⟩

theorem trans {middle : SlotList collation} (first : list.Sheds middle)
    (second : middle.Sheds final) : list.Sheds final where
  ages index := by
    have former := first.ages index
    have latter := second.ages index
    rw [Ages] at former latter ⊢
    rw [latter, former, UInt32.add_assoc]
    -- A slot that has no node in between has none in the end, so that only one of the two can count.
    cases between : middle.isOccupied index with
    | false =>
      have vacant : final.isOccupied index = false := by
        by_contra there
        rw [second.occupied index (Bool.eq_true_of_not_eq_false there)] at between
        contradiction
      simp [vacant]
    | true => simp [first.occupied index between]
  occupied index there := first.occupied index (second.occupied index there)

theorem cut {node : Node α} (occupied : list.nodeAt? index = some node) :
    list.Sheds (list.cut index node) where
  ages other := by
    rw [Ages, isOccupied_cut]
    by_cases same : other = index
    · subst same
      have there : list.isOccupied other := by rw [isOccupied, occupied]; rfl
      simp [generationOf_cut occupied, there]
    · have kept := congrArg Handle.generation (list.handleOf_cut node (Ne.symm same))
      rw [generationOf, kept, generationOf]
      simp [same]
  occupied other there := by
    rw [isOccupied_cut, Bool.and_eq_true] at there
    exact there.1

theorem erase (list : SlotList collation) (handle : Handle) :
    list.Sheds (list.erase handle).2 := by
  cases live : list.node? handle with
  | none =>
    simp only [SlotList.erase, live]
    exact .refl list
  | some node =>
    rw [erase_of_node? live]
    exact .cut (nodeAt?_of_node? live)

theorem discardFirst (list : SlotList collation) (steps : Nat) :
    list.Sheds (list.discardFirst steps).2 := by
  induction steps generalizing list with
  | zero => exact .refl list
  | succ steps ih =>
    rw [SlotList.discardFirst]
    split
    · exact (Sheds.erase list _).trans (ih _)
    · exact .refl list

end Sheds

theorem IsLinked.retains_pushAll (linked : list.IsLinked) (elements : List α) :
    list.Retains (list.pushAll elements) := by
  induction elements generalizing list with
  | nil => exact .refl list
  | cons element elements ih =>
    obtain ⟨chain, represents⟩ := id linked
    exact (Retains.insertBefore represents.free element none).trans (ih (linked.pushBack element))

theorem IsLinked.ages_perform (linked : list.IsLinked) {operation : Operation α}
    (staying : operation ≠ .copy) (index : Nat) : list.Ages (list.perform operation).2 index := by
  obtain ⟨chain, represents⟩ := id linked
  have insertBefore := Retains.insertBefore represents.free
  cases operation with
  | insert element => exact (insertBefore element _).ages index
  | pushBack element => exact (insertBefore element none).ages index
  | pushFront element => exact (insertBefore element list.head).ages index
  | pushAll elements => exact (linked.retains_pushAll elements).ages index
  | erase handle => exact (Sheds.erase list handle).ages index
  | discard handle => exact (Sheds.erase list handle).ages index
  | clear => exact (Sheds.discardFirst list _).ages index
  | modify handle change =>
    simp only [SlotList.perform]
    split
    · rename_i changed found
      exact (Retains.modify? found).ages index
    · exact (Retains.refl list).ages index
  | modifyAt position change =>
    simp only [SlotList.perform]
    split
    · rename_i changed found
      obtain ⟨handle, _, found⟩ := Option.bind_eq_some_iff.mp found
      exact (Retains.modify? found).ages index
    · exact (Retains.refl list).ages index
  | copy => contradiction

theorem IsLinked.generationOf_performAll (linked : list.IsLinked) {operations : List (Operation α)}
    (staying : .copy ∉ operations) (index : Nat) :
    (list.performAll operations).2.generationOf index =
      list.generationOf index + UInt32.ofNat (list.removals index operations) := by
  induction operations generalizing list with
  | nil => exact (UInt32.add_zero _).symm
  | cons operation operations ih =>
    rw [List.mem_cons, not_or] at staying
    have moved : list.Ages (list.perform operation).2 index :=
      linked.ages_perform (Ne.symm staying.1) index
    rw [Ages] at moved
    rw [SlotList.performAll, ih (linked.perform operation) staying.2, moved, removals, UInt32.ofNat_add,
      UInt32.add_assoc]
    split <;> rfl

/-! ### Handles that are accepted -/

/-- A list knows the element of a handle, whatever is asked of it. -/
structure Accepts (list : SlotList collation) (handle : Handle) : Prop where
  element : (list.element? handle).isSome
  position : (list.positionOf? handle).isSome
  modify (change : α → α) : (list.modify? handle change).isSome
  erase : (list.erase handle).1.isSome

structure Refuses (list : SlotList collation) (handle : Handle) : Prop where
  element : list.element? handle = none
  position : list.positionOf? handle = none
  modify (change : α → α) : list.modify? handle change = none
  erase : list.erase handle = (none, list)
  discard : list.discard handle = ([], list)

/-- The ways in which a list gives out a handle: in answer to the operation that has made the element,
for an element at a position, and for an element that compares equal to another. -/
def GivesOut (made : List (Answer α) × SlotList collation) (handle : Handle) : Prop :=
  made.1.getLast? = some (.handle handle) ∨ (∃ position, made.2.handleAt? position = some handle) ∨
    ∃ target, made.2.locate? target = some handle

theorem Sequence.Step.mem_of_handle {sequence next : Sequence α} {operation : Operation α}
    (step : Sequence.Step collation sequence operation (.handle handle) next) :
    handle ∈ next.map Prod.fst := by
  cases step with
  | insert => simp
  | pushBack => simp
  | pushFront => simp

theorem Sequence.Run.mem_of_last {sequence last : Sequence α} {operations : List (Operation α)}
    {answers : List (Answer α)} (run : Sequence.Run collation sequence operations answers last)
    (given : answers.getLast? = some (.handle handle)) : handle ∈ last.map Prod.fst := by
  induction run with
  | nil => contradiction
  | cons step others ih =>
    cases others with
    | nil =>
      obtain rfl := Option.some.inj given
      exact step.mem_of_handle
    | cons => exact ih (by rwa [List.getLast?_cons_cons] at given)

theorem GivesOut.mem_handles {operations : List (Operation α)}
    (given : GivesOut ((empty : SlotList collation).performAll operations) handle) :
    handle ∈ ((empty : SlotList collation).performAll operations).2.handles := by
  obtain answered | ⟨position, found⟩ | ⟨target, found⟩ := given
  · exact (IsLinked.empty.run operations).mem_of_last answered
  · exact List.mem_of_getElem? found
  · obtain ⟨entry, first, rfl⟩ := Option.map_eq_some_iff.mp found
    exact List.mem_map_of_mem (List.mem_of_find?_eq_some first)

namespace IsLinked

variable (linked : list.IsLinked)
include linked

theorem mem_handles_iff (handle : Handle) :
    handle ∈ list.handles ↔
      handle.generation = list.generationOf handle.index ∧ list.isOccupied handle.index := by
  have live : handle ∈ list.handles ↔ (list.node? handle).isSome := by
    obtain ⟨front, element, back, split⟩ | absent := place_cases list.entries handle
    · obtain ⟨node, found, _⟩ := linked.exists_node? split
      simp [handles, split, found]
    · simp [handles, absent, linked.node?_eq_none absent]
  rw [live, node?_eq, ← handleOf_eq_iff]
  split
  · rename_i current
    simp [isOccupied, ← current]
  · rename_i stale
    simp [stale]

theorem accepts (present : handle ∈ list.handles) : list.Accepts handle := by
  obtain ⟨front, element, back, split⟩ | absent := place_cases list.entries handle
  · obtain ⟨node, live, _⟩ := linked.exists_node? split
    refine ⟨?_, List.isSome_idxOf?.mpr present, fun change => ?_, ?_⟩
    · rw [element?, live, Option.map_some, Option.isSome_some]
    · rw [SlotList.modify?, live, Option.map_some, Option.isSome_some]
    · rw [(linked.erase_eq split).1, Option.isSome_some]
  · exact absurd present absent

theorem refuses (absent : handle ∉ list.handles) : list.Refuses handle where
  element := by rw [element?, linked.node?_eq_none absent, Option.map_none]
  position := List.idxOf?_eq_none_iff.mpr absent
  modify := linked.modify?_of_absent absent
  erase := linked.erase_of_absent absent
  discard := by
    rw [discard_eq, linked.erase_of_absent absent]
    rfl

theorem accepts_iff : list.Accepts handle ↔ handle ∈ list.handles := by
  refine ⟨fun accepts => ?_, linked.accepts⟩
  by_contra absent
  have known := accepts.element
  rw [(linked.refuses absent).element] at known
  contradiction

theorem refuses_iff : list.Refuses handle ↔ handle ∉ list.handles := by
  refine ⟨fun refuses present => ?_, linked.refuses⟩
  have known := (linked.accepts present).element
  rw [refuses.element] at known
  contradiction

theorem mem_handles_performAll (present : handle ∈ list.handles) {later : List (Operation α)}
    (staying : .copy ∉ later) :
    handle ∈ (list.performAll later).2.handles ↔
      (list.performAll later).2.isOccupied handle.index ∧
        2 ^ 32 ∣ list.removals handle.index later := by
  have current := ((linked.mem_handles_iff handle).mp present).1
  rw [(linked.performAll later).mem_handles_iff, linked.generationOf_performAll staying, ← current,
    eq_comm, UInt32.add_eq_left, UInt32.ofNat_eq_iff_mod_eq_toNat, Nat.dvd_iff_mod_eq_zero, and_comm]
  rfl

end IsLinked

/-- A list knows a handle that it has given out if and only if the slot has a node, and the number of
times that it has given one up since is a multiple of `2 ^ 32`. So once its element has left, a
handle is of no use until the slot has been left that many times. -/
theorem handle_accepted_iff (operations later : List (Operation α)) (handle : Handle)
    (given : GivesOut ((empty : SlotList collation).performAll operations) handle)
    (staying : .copy ∉ later) :
    let list := ((empty : SlotList collation).performAll operations).2
    let final := (list.performAll later).2
    let removals := list.removals handle.index later
    (final.Accepts handle ↔ final.isOccupied handle.index ∧ 2 ^ 32 ∣ removals) ∧
      (final.Refuses handle ↔ ¬ (final.isOccupied handle.index ∧ 2 ^ 32 ∣ removals)) ∧
      (0 < removals → removals < 2 ^ 32 → final.Refuses handle) := by
  intro list final removals
  have linked : list.IsLinked := IsLinked.empty.performAll operations
  have finalLinked : final.IsLinked := linked.performAll later
  have known : handle ∈ final.handles ↔ final.isOccupied handle.index ∧ 2 ^ 32 ∣ removals :=
    linked.mem_handles_performAll given.mem_handles staying
  rw [finalLinked.accepts_iff, finalLinked.refuses_iff, known]
  refine ⟨Iff.rfl, Iff.rfl, fun left few around => ?_⟩
  exact absurd (Nat.le_of_dvd left around.2) (Nat.not_le.mpr few)

def lone (generation : UInt32) (element : α) : SlotList collation where
  slots := #[⟨generation, some ⟨element, none, none⟩⟩]
  free := []
  head := some 0
  tail := some 0
  size := 1

def bare (generation : UInt32) : SlotList collation where
  slots := #[⟨generation, none⟩]
  free := [0]
  head := none
  tail := none
  size := 0

theorem clear_lone (generation : UInt32) (element : α) :
    ((lone generation element : SlotList collation).perform .clear).2 = bare (generation + 1) := by
  simp [perform, clear, discardFirst, discard, erase, node?, handleOf, lone, release, linkNext,
    linkPrevious, bare]

theorem pushBack_bare (generation : UInt32) (element : α) :
    ((bare generation : SlotList collation).perform (.pushBack element)).2 =
      lone generation element := rfl

/-- Lets everything go and takes up an element, so many times. -/
def turnover (element : α) : (count : Nat) → List (Operation α)
  | 0 => []
  | count + 1 => .clear :: .pushBack element :: turnover element count

theorem copy_not_mem_turnover (element : α) (count : Nat) : .copy ∉ turnover element count := by
  induction count with
  | zero => exact List.not_mem_nil
  | succ count ih => simpa [turnover] using ih

theorem performAll_turnover (generation : UInt32) (element : α) (count : Nat) :
    ((lone generation element : SlotList collation).performAll (turnover element count)).2 =
      lone (generation + UInt32.ofNat count) element := by
  induction count generalizing generation with
  | zero => exact congrArg (lone · element) (UInt32.add_zero _).symm
  | succ count ih =>
    rw [turnover, performAll, clear_lone, performAll, pushBack_bare, ih, UInt32.add_assoc,
      Nat.add_comm count, UInt32.ofNat_add]
    rfl

theorem removals_turnover (generation : UInt32) (element : α) (count : Nat) :
    (lone generation element : SlotList collation).removals 0 (turnover element count) = count := by
  induction count generalizing generation with
  | zero => rfl
  | succ count ih =>
    rw [turnover, removals, clear_lone, removals, pushBack_bare, ih, Nat.add_comm count]
    exact congrArg (1 + ·) (Nat.zero_add count)

theorem handle_accepted_again :
    let list := ((empty : SlotList (Collation.ofOrd fun n : Nat => toString n)).performAll
      [.pushBack 7]).2
    (list.performAll (turnover 7 1)).2.Refuses ⟨0, 0⟩ ∧
      (list.performAll (turnover 7 (2 ^ 32))).2.Accepts ⟨0, 0⟩ := by
  intro list
  have first : list = lone 0 7 := rfl
  have known (count : Nat) := @handle_accepted_iff Nat (Collation.ofOrd fun n => toString n)
    [.pushBack 7] (turnover 7 count) ⟨0, 0⟩ (.inl rfl) (copy_not_mem_turnover 7 count)
  have left (count : Nat) : list.removals 0 (turnover 7 count) = count := removals_turnover 0 7 count
  have there (count : Nat) : (list.performAll (turnover 7 count)).2.isOccupied 0 := by
    rw [first, performAll_turnover]
    rfl
  constructor
  · have few := left 1
    exact (known 1).2.2 (by rw [few]; decide) (by rw [few]; decide)
  · refine (known (2 ^ 32)).1.mpr ⟨there (2 ^ 32), ?_⟩
    have around := left (2 ^ 32)
    exact around.symm ▸ Nat.dvd_refl (2 ^ 32)

end GroupChat.SlotList

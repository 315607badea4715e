import GroupChat.Proofs.SlotList.Refinement

/-!
Two ways to an element: at once, by the slot that a handle names, and one link after the other from the
head. A slot says by itself whether a handle is good, and the links say where its element stands. They
agree on every handle whatsoever, because the slots on the way from the head are all that are occupied.
-/
namespace GroupChat.SlotList

variable {α : Type} {collation : Collation α} {list : SlotList collation}
variable {handle : Handle} {position : Nat}

theorem findIdx?_eq_length {β : Type} {holds : β → Bool} {front back : List β} {entry : β}
    (before : ∀ other ∈ front, holds other = false) (here : holds entry) :
    (front ++ entry :: back).findIdx? holds = some front.length := by
  rw [List.findIdx?_append, List.findIdx?_eq_none_iff.mpr before, List.findIdx?_cons, if_pos here]
  simp

theorem erase_fst (list : SlotList collation) (handle : Handle) :
    (list.erase handle).1 = list.element? handle := by
  cases live : list.node? handle with
  | none => simp only [erase, element?, live, Option.map_none]
  | some node => simp only [erase, element?, live, Option.map_some]

theorem locate?_eq_bind (list : SlotList collation) (target : α) :
    list.locate? target = (list.rank? target).bind list.handleAt? := by
  have rank : list.rank? target =
      list.entries.findIdx? fun entry => collation.compare target entry.2 = .eq := List.findIdx?_map
  have first : list.locate? target =
      (list.entries.find? fun entry => collation.compare target entry.2 = .eq).map Prod.fst := rfl
  rw [first, rank, List.find?_eq_bind_findIdx?_getElem?, Option.map_bind]
  exact congrArg _ (funext fun position => (list.handleAt?_eq position).symm)

namespace IsLinked

variable (linked : list.IsLinked)
include linked

theorem positionOf?_eq {front back : Sequence α} {element : α}
    (split : list.entries = front ++ (handle, element) :: back) :
    list.positionOf? handle = some front.length := by
  have nodup := linked.handles_nodup
  rw [split] at nodup
  have outside := fresh_of_nodup nodup
  rw [List.map_append, List.mem_append, not_or] at outside
  have before : ∀ other ∈ front.map Prod.fst, (other == handle) = false :=
    fun other member => beq_false_of_ne fun same => outside.1 (same ▸ member)
  rw [positionOf?, handles, split, List.map_append, List.map_cons, List.idxOf?,
    findIdx?_eq_length before (beq_self_eq_true handle), List.length_map]

theorem positionOf?_eq_some_iff :
    list.positionOf? handle = some position ↔ list.handleAt? position = some handle := by
  refine ⟨fun found => ?_, fun there => ?_⟩
  · obtain ⟨inRange, same, _⟩ := List.idxOf?_eq_some_iff.mp found
    rw [handleAt?, List.getElem?_eq_getElem inRange, same]
  · rw [handleAt?_eq] at there
    obtain ⟨⟨_, element⟩, found, rfl⟩ := Option.map_eq_some_iff.mp there
    obtain ⟨front, back, split, rfl⟩ := getElem?_split found
    exact linked.positionOf?_eq split

/-- A handle is known in both ways, and both lead to one element, or in neither. -/
theorem lookup_cases (handle : Handle) :
    (∃ position element, list.positionOf? handle = some position ∧
      list.get? position = some element ∧ list.element? handle = some element) ∨
    (list.positionOf? handle = none ∧ list.element? handle = none) := by
  obtain ⟨front, element, back, split⟩ | absent := place_cases list.entries handle
  · have member : (handle, element) ∈ list.entries := by
      rw [split]
      exact List.mem_append_right front List.mem_cons_self
    refine .inl ⟨front.length, element, linked.positionOf?_eq split, ?_,
      linked.element?_eq_some_iff.mpr member⟩
    rw [get?, elements, split]
    simp
  · refine .inr ⟨List.idxOf?_eq_none_iff.mpr absent, ?_⟩
    rw [element?, linked.node?_eq_none absent, Option.map_none]

theorem positionOf?_handleAt? (position : Nat) :
    (list.handleAt? position).bind list.positionOf? =
      if position < list.size then some position else none := by
  have known : list.handles.length = list.size := by
    rw [linked.size_eq, handles, elements, List.length_map, List.length_map]
  by_cases inRange : position < list.size
  · rw [if_pos inRange]
    rw [← known] at inRange
    have there : list.handleAt? position = some list.handles[position] :=
      List.getElem?_eq_getElem inRange
    rw [there, Option.bind_some, linked.positionOf?_eq_some_iff, there]
  · rw [if_neg inRange, handleAt?, List.getElem?_eq_none (known ▸ Nat.le_of_not_lt inRange),
      Option.bind_none]

theorem isSome_element? (handle : Handle) :
    (list.element? handle).isSome = (list.positionOf? handle).isSome := by
  obtain ⟨_, _, place, _, known⟩ | ⟨nowhere, unknown⟩ := linked.lookup_cases handle
  · rw [place, known, Option.isSome_some, Option.isSome_some]
  · rw [nowhere, unknown, Option.isSome_none, Option.isSome_none]

theorem get?_positionOf? (handle : Handle) :
    (list.positionOf? handle).bind list.get? = list.element? handle := by
  obtain ⟨_, _, place, there, known⟩ | ⟨nowhere, unknown⟩ := linked.lookup_cases handle
  · rw [place, known, Option.bind_some, there]
  · rw [nowhere, unknown, Option.bind_none]

theorem locate?_cases (target : α) :
    (∃ handle position, list.locate? target = some handle ∧ list.rank? target = some position ∧
      list.positionOf? handle = some position) ∨
    (list.locate? target = none ∧ list.rank? target = none) := by
  rw [locate?_eq_bind]
  cases found : list.rank? target with
  | none => exact .inr ⟨rfl, rfl⟩
  | some position =>
    obtain ⟨inRange, _⟩ := List.findIdx?_eq_some_iff_getElem.mp found
    rw [← linked.size_eq] at inRange
    have whole := linked.positionOf?_handleAt? position
    rw [if_pos inRange] at whole
    obtain ⟨handle, there, place⟩ := Option.bind_eq_some_iff.mp whole
    exact .inl ⟨handle, position, there, rfl, place⟩

end IsLinked

/-- However a list has been made, and whatever handle it is asked for: the slot and the links agree on
whether there is an element, on which it is and on where it stands, and so does what is found for a
target. -/
theorem lookups_agree (operations : List (Operation α)) :
    let list := ((empty : SlotList collation).performAll operations).2
    (∀ handle, (list.element? handle).isSome = (list.positionOf? handle).isSome ∧
      (list.erase handle).1 = list.element? handle ∧
      (list.positionOf? handle).bind list.get? = list.element? handle ∧
      ∀ position, list.positionOf? handle = some position ↔
        list.handleAt? position = some handle) ∧
    (∀ position, (list.handleAt? position).bind list.positionOf? =
      if position < list.size then some position else none) ∧
    ∀ target, (list.locate? target).isSome = (list.rank? target).isSome ∧
      (list.locate? target).bind list.positionOf? = list.rank? target := by
  intro list
  have linked : list.IsLinked := IsLinked.empty.performAll operations
  refine ⟨fun handle => ⟨linked.isSome_element? handle, list.erase_fst handle,
    linked.get?_positionOf? handle, fun _ => linked.positionOf?_eq_some_iff⟩,
    linked.positionOf?_handleAt?, fun target => ?_⟩
  obtain ⟨handle, position, found, rank, place⟩ | ⟨unfound, nowhere⟩ := linked.locate?_cases target
  · rw [found, rank, Option.bind_some, place]
    exact ⟨rfl, rfl⟩
  · rw [unfound, nowhere]
    exact ⟨rfl, rfl⟩

end GroupChat.SlotList

import GroupChat.Proofs.SlotList.Handles

/-!
What can be done to a list, in any order and with any handles, and what each operation does to the
elements with their handles. The slots of a list that is made in this way always represent a chain.
-/
namespace GroupChat.SlotList

variable {α : Type} {collation : Collation α} {list : SlotList collation}

inductive Operation (α : Type) where
  | insert (element : α)
  | pushBack (element : α)
  | pushFront (element : α)
  | pushAll (elements : List α)
  | erase (handle : Handle)
  | discard (handle : Handle)
  | clear
  | modify (handle : Handle) (change : α → α)
  | modifyAt (position : Nat) (change : α → α)
  | copy

inductive Answer (α : Type) where
  | handle (handle : Handle)
  | taken (element : Option α)
  | gone (elements : List α)
  | found (there : Bool)
  | done

def perform (list : SlotList collation) : Operation α → Answer α × SlotList collation
  | .insert element => (.handle (list.insert element).1, (list.insert element).2)
  | .pushBack element => (.handle (list.pushBack element).1, (list.pushBack element).2)
  | .pushFront element => (.handle (list.pushFront element).1, (list.pushFront element).2)
  | .pushAll elements => (.done, list.pushAll elements)
  | .erase handle => (.taken (list.erase handle).1, (list.erase handle).2)
  | .discard handle => (.gone (list.discard handle).1, (list.discard handle).2)
  | .clear => (.gone list.clear.1, list.clear.2)
  | .modify handle change =>
    match list.modify? handle change with
    | some changed => (.found true, changed)
    | none => (.found false, list)
  | .modifyAt position change =>
    match list.modifyAt? position change with
    | some changed => (.found true, changed)
    | none => (.found false, list)
  | .copy => (.done, list.copy)

def performAll (list : SlotList collation) :
    List (Operation α) → List (Answer α) × SlotList collation
  | [] => ([], list)
  | operation :: operations =>
    let further := (list.perform operation).2.performAll operations
    ((list.perform operation).1 :: further.1, further.2)

/-! ### Beginnings and positions -/

theorem IsLinked.head_cases (linked : list.IsLinked) :
    (list.head = none ∧ list.entries = []) ∨
      ∃ index node rest, list.head = some index ∧ list.nodeAt? index = some node ∧
        list.entries = (list.handleOf index, node.element) :: rest := by
  obtain ⟨chain, represents⟩ := linked
  rw [represents.head, represents.entries_label]
  cases chain with
  | nil => exact .inl ⟨rfl, rfl⟩
  | cons entry rest =>
    exact .inr ⟨entry.1, _, rest.map list.label, rfl,
      represents.node (List.nil_append _).symm, rfl⟩

theorem getElem?_split {β : Type} {entries : List β} {position : Nat} {entry : β}
    (found : entries[position]? = some entry) :
    ∃ front back, entries = front ++ entry :: back ∧ front.length = position := by
  obtain ⟨inRange, rfl⟩ := List.getElem?_eq_some_iff.mp found
  refine ⟨entries.take position, entries.drop (position + 1), ?_, ?_⟩
  · rw [← List.drop_eq_getElem_cons inRange, List.take_append_drop]
  · exact List.length_take_of_le inRange.le

theorem handleAt?_eq (list : SlotList collation) (position : Nat) :
    list.handleAt? position = list.entries[position]?.map Prod.fst := List.getElem?_map

/-! ### Operations made of others -/

theorem discard_eq (list : SlotList collation) (handle : Handle) :
    list.discard handle = ((list.erase handle).1.toList, (list.erase handle).2) := rfl

theorem pushAll_cons (list : SlotList collation) (element : α) (elements : List α) :
    list.pushAll (element :: elements) = (list.pushBack element).2.pushAll elements := rfl

theorem modifyAt?_eq {front back : List (Handle × α)} {handle : Handle} {element : α}
    (split : list.entries = front ++ (handle, element) :: back) (change : α → α) :
    list.modifyAt? front.length change = list.modify? handle change := by
  have place : list.handleAt? front.length = some handle := by simp [handleAt?_eq, split]
  rw [modifyAt?, place, Option.bind_some]

theorem modifyAt?_of_le {position : Nat} (outside : list.entries.length ≤ position)
    (change : α → α) : list.modifyAt? position change = none := by
  rw [modifyAt?, handleAt?_eq, List.getElem?_eq_none outside]
  rfl

namespace IsLinked

theorem pushBack (linked : list.IsLinked) (element : α) : (list.pushBack element).2.IsLinked := by
  obtain ⟨chain, represents⟩ := linked
  rw [← List.append_nil chain] at represents
  exact ⟨_, represents.insertBefore element⟩

theorem pushFront (linked : list.IsLinked) (element : α) :
    (list.pushFront element).2.IsLinked := by
  obtain ⟨chain, represents⟩ := linked
  rw [SlotList.pushFront, represents.head]
  rw [← List.nil_append chain] at represents
  exact ⟨_, represents.insertBefore element⟩

theorem pushAll (linked : list.IsLinked) (elements : List α) :
    (list.pushAll elements).IsLinked := by
  induction elements generalizing list with
  | nil => exact linked
  | cons element elements ih => exact ih (linked.pushBack element)

theorem copy (list : SlotList collation) : list.copy.IsLinked := empty.pushAll list.elements

theorem entries_pushAll (linked : list.IsLinked) (elements : List α) :
    ∃ added, added.map Prod.snd = elements ∧
      (list.pushAll elements).entries = list.entries ++ added := by
  induction elements generalizing list with
  | nil => exact ⟨[], rfl, (List.append_nil _).symm⟩
  | cons element elements ih =>
    obtain ⟨added, same, entries⟩ := ih (linked.pushBack element)
    refine ⟨((list.pushBack element).1, element) :: added, by rw [List.map_cons, same], ?_⟩
    rw [pushAll_cons, entries, linked.entries_pushBack, List.append_assoc, List.singleton_append]

theorem entries_copy (list : SlotList collation) :
    list.copy.entries.map Prod.snd = list.entries.map Prod.snd := by
  have linked : (SlotList.empty : SlotList collation).IsLinked := empty
  obtain ⟨added, same, entries⟩ := linked.entries_pushAll list.elements
  have whole : list.copy.entries = added := entries
  rw [whole, same]
  rfl

theorem entries_erase_head (linked : list.IsLinked) {index : Nat} {element : α}
    {rest : List (Handle × α)} (first : list.entries = (list.handleOf index, element) :: rest) :
    (list.erase (list.handleOf index)).1 = some element ∧
      (list.erase (list.handleOf index)).2.entries = rest :=
  linked.erase_eq (first.trans (List.nil_append _).symm)

/-- Letting go of the first element often enough lets go of all, the first one first. -/
theorem discardFirst (linked : list.IsLinked) {steps : Nat} (enough : list.entries.length ≤ steps) :
    (list.discardFirst steps).1 = list.elements ∧ (list.discardFirst steps).2.IsLinked ∧
      (list.discardFirst steps).2.entries = [] := by
  induction steps generalizing list with
  | zero =>
    have none := List.eq_nil_of_length_eq_zero (Nat.le_zero.mp enough)
    exact ⟨by rw [elements, none]; rfl, linked, none⟩
  | succ steps ih =>
    obtain ⟨none, nothing⟩ | ⟨index, node, rest, begins, _, first⟩ := linked.head_cases
    · simp only [SlotList.discardFirst, none]
      exact ⟨by rw [elements, nothing]; rfl, linked, nothing⟩
    · obtain ⟨taken, left⟩ := linked.entries_erase_head first
      rw [first, List.length_cons, Nat.succ_le_succ_iff, ← left] at enough
      obtain ⟨gone, further, nothing⟩ := ih (linked.erase _) enough
      simp only [SlotList.discardFirst, begins, discard_eq, taken, gone]
      refine ⟨?_, further, nothing⟩
      rw [elements, elements, left, first]
      rfl

theorem length_entries_le (linked : list.IsLinked) : list.entries.length ≤ list.slots.size := by
  obtain ⟨chain, represents⟩ := linked
  rw [represents.entries_label, List.length_map]
  exact represents.length_le

theorem clear_eq (linked : list.IsLinked) :
    list.clear.1 = list.elements ∧ list.clear.2.IsLinked ∧ list.clear.2.entries = [] :=
  linked.discardFirst linked.length_entries_le

theorem perform (linked : list.IsLinked) (operation : Operation α) :
    (list.perform operation).2.IsLinked := by
  cases operation with
  | insert element => exact linked.insert element
  | pushBack element => exact linked.pushBack element
  | pushFront element => exact linked.pushFront element
  | pushAll elements => exact linked.pushAll elements
  | erase handle => exact linked.erase handle
  | discard handle => exact linked.erase handle
  | clear => exact linked.clear_eq.2.1
  | modify handle change =>
    simp only [SlotList.perform]
    split
    · rename_i changed found
      exact linked.modify? found
    · exact linked
  | modifyAt position change =>
    simp only [SlotList.perform]
    split
    · rename_i changed found
      obtain ⟨handle, _, found⟩ := Option.bind_eq_some_iff.mp found
      exact linked.modify? found
    · exact linked
  | copy => exact copy list

theorem performAll (linked : list.IsLinked) (operations : List (Operation α)) :
    (list.performAll operations).2.IsLinked := by
  induction operations generalizing list with
  | nil => exact linked
  | cons operation operations ih => exact ih (linked.perform operation)

end IsLinked

end GroupChat.SlotList

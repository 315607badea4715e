import GroupChat.Proofs.SlotList.Erasure

/-!
Handles through the changes of a list. A slot keeps its generation until its node leaves it. So the
handle of an element is the same for as long as the element is in the list, whatever happens to the
others, and an operation is settled by what it does to the elements with their handles.
-/
namespace GroupChat.SlotList

variable {α : Type} {collation : Collation α} {list : SlotList collation}
variable {chain : List (Nat × α)} {front back : List (Handle × α)} {handle : Handle} {element : α}

/-- The element of a slot with the handle of the slot. -/
def label (list : SlotList collation) (entry : Nat × α) : Handle × α :=
  (list.handleOf entry.1, entry.2)

@[simp] theorem index_handleOf (list : SlotList collation) (index : Nat) :
    (list.handleOf index).index = index := rfl

theorem node?_eq (list : SlotList collation) (handle : Handle) :
    list.node? handle =
      if handle = list.handleOf handle.index then list.nodeAt? handle.index else none := by
  unfold node? nodeAt? handleOf
  cases list.slots[handle.index]? with
  | none => simp
  | some slot =>
    obtain ⟨index, generation⟩ := handle
    simp [eq_comm]

/-! ### Handles of slots -/

theorem handleOf_modifyNode (list : SlotList collation) (index : Nat) (change : Node α → Node α) :
    (list.modifyNode index change).handleOf = list.handleOf := by
  funext other
  simp only [handleOf, modifyNode, Array.getElem?_modify]
  split
  · cases list.slots[other]? <;> rfl
  · rfl

@[simp] theorem handleOf_linkNext (list : SlotList collation) (previous next : Option Nat) :
    (list.linkNext previous next).handleOf = list.handleOf := by
  cases previous with
  | none => rfl
  | some previous => exact list.handleOf_modifyNode previous _

@[simp] theorem handleOf_linkPrevious (list : SlotList collation) (next previous : Option Nat) :
    (list.linkPrevious next previous).handleOf = list.handleOf := by
  cases next with
  | none => rfl
  | some next => exact list.handleOf_modifyNode next _

theorem handleOf_store (list : SlotList collation) (node : Node α) :
    (list.store node).2.handleOf = list.handleOf := by
  funext other
  unfold store
  split
  · rename_i index free found
    simp only [handleOf, Array.getElem?_modify]
    split
    · cases list.slots[other]? <;> rfl
    · rfl
  · simp only [handleOf, Array.getElem?_push]
    split
    · rename_i last
      simp [last]
    · rfl

theorem handleOf_splice (list : SlotList collation) (node : Node α) :
    (list.splice node).handleOf = list.handleOf := by
  have linked : (list.splice node).handleOf = (((list.store node).2.linkNext node.previous
      (some (list.store node).1)).linkPrevious node.next (some (list.store node).1)).handleOf := rfl
  rw [linked, handleOf_linkPrevious, handleOf_linkNext, handleOf_store]

theorem handleOf_insertBefore (list : SlotList collation) (element : α) (next : Option Nat) :
    (list.insertBefore element next).2.handleOf = list.handleOf := by
  rw [insertBefore_eq, handleOf_splice]

theorem handle_insertBefore (list : SlotList collation) (element : α) (next : Option Nat) :
    (list.insertBefore element next).1 =
      (list.insertBefore element next).2.handleOf (list.insertBefore element next).1.index := rfl

theorem handleOf_cut (list : SlotList collation) {index other : Nat} (node : Node α)
    (distinct : index ≠ other) : (list.cut index node).handleOf other = list.handleOf other := by
  rw [cut, handleOf_linkPrevious, handleOf_linkNext]
  simp only [handleOf, release, Array.getElem?_modify, if_neg distinct]

/-! ### Elements with their handles -/

theorem label_insertBefore (list : SlotList collation) (element : α) (next : Option Nat) :
    (list.insertBefore element next).2.label = list.label := by
  funext entry
  rw [label, label, handleOf_insertBefore]

theorem map_label_congr {other : SlotList collation}
    (same : ∀ index ∈ chain.map Prod.fst, list.handleOf index = other.handleOf index) :
    chain.map list.label = chain.map other.label :=
  List.map_congr_left fun entry member =>
    congrArg (·, entry.2) (same entry.1 (List.mem_map_of_mem member))

namespace Represents

theorem entries_label (represents : list.Represents chain) :
    list.entries = chain.map list.label := represents.entries_eq

theorem exists_split (represents : list.Represents chain)
    (split : list.entries = front ++ (handle, element) :: back) :
    ∃ before index after, chain = before ++ (index, element) :: after ∧
      front = before.map list.label ∧ handle = list.handleOf index ∧
      back = after.map list.label := by
  rw [represents.entries_label] at split
  obtain ⟨before, rest, rfl, rfl, tail⟩ := List.map_eq_append_iff.mp split
  obtain ⟨⟨index, other⟩, after, rfl, same, rfl⟩ := List.map_eq_cons_iff.mp tail
  obtain ⟨rfl, rfl⟩ := Prod.mk.inj same
  exact ⟨before, index, after, rfl, rfl, rfl, rfl⟩

theorem entries_insertBefore {before after : List (Nat × α)}
    (represents : list.Represents (before ++ after)) (element : α) :
    (list.insertBefore element (firstSlot after)).2.entries =
      before.map list.label ++
        ((list.insertBefore element (firstSlot after)).1, element) :: after.map list.label := by
  have made := list.label_insertBefore element (firstSlot after)
  rw [(represents.insertBefore element).entries_label, List.map_append, List.map_cons, made, label,
    ← list.handleOf_insertBefore element (firstSlot after), ← handle_insertBefore]

theorem node?_handleOf {before after : List (Nat × α)} {index : Nat}
    (represents : list.Represents (before ++ (index, element) :: after)) :
    list.node? (list.handleOf index) = some ⟨element, lastSlot before, firstSlot after⟩ := by
  rw [node?_eq, index_handleOf, if_pos rfl, represents.node rfl]

theorem entries_cut {before after : List (Nat × α)} {index : Nat} {node : Node α}
    (represents : list.Represents (before ++ (index, element) :: after))
    (occupied : list.nodeAt? index = some node) :
    (list.cut index node).entries = before.map list.label ++ after.map list.label := by
  have around := represents.not_mem_around rfl
  rw [(represents.cut occupied).entries_label, ← List.map_append]
  refine map_label_congr fun other member => list.handleOf_cut node fun same => ?_
  rw [List.map_append, List.mem_append, ← same] at member
  exact member.elim around.1 around.2

theorem entries_modifyNode (represents : list.Represents chain) (index : Nat) (change : α → α) :
    (list.modifyNode index fun node => { node with element := change node.element }).entries =
      (chain.map (changeAt index change)).map list.label := by
  rw [(represents.modifyNode index change).entries_label]
  exact map_label_congr fun other _ => congrFun (list.handleOf_modifyNode index _) other

end Represents

namespace IsLinked

variable (linked : list.IsLinked)
include linked

theorem handles_nodup : (list.entries.map Prod.fst).Nodup := by
  obtain ⟨chain, represents⟩ := linked
  have handles : list.entries.map Prod.fst = (chain.map Prod.fst).map list.handleOf := by
    rw [represents.entries_label, List.map_map, List.map_map]
    rfl
  rw [handles]
  exact represents.nodup.map fun index other same => congrArg Handle.index same

theorem entries_insert (element : α) :
    (list.insert element).2.entries =
      list.entries.takeWhile (fun entry => ¬ collation.compare element entry.2 = .lt) ++
        ((list.insert element).1, element) ::
          list.entries.dropWhile (fun entry => ¬ collation.compare element entry.2 = .lt) := by
  obtain ⟨chain, represents⟩ := linked
  rw [represents.insert_eq, represents.entries_label, List.takeWhile_map, List.dropWhile_map]
  have whole := List.takeWhile_append_dropWhile (p := Represents.stays collation element) (l := chain)
  rw [← whole] at represents
  exact represents.entries_insertBefore element

theorem entries_pushBack (element : α) :
    (list.pushBack element).2.entries =
      list.entries ++ [((list.pushBack element).1, element)] := by
  obtain ⟨chain, represents⟩ := linked
  rw [represents.entries_label]
  rw [← List.append_nil chain] at represents
  exact represents.entries_insertBefore element

theorem entries_pushFront (element : α) :
    (list.pushFront element).2.entries =
      ((list.pushFront element).1, element) :: list.entries := by
  obtain ⟨chain, represents⟩ := linked
  rw [pushFront, represents.head, represents.entries_label]
  rw [← List.nil_append chain] at represents
  exact represents.entries_insertBefore element

theorem exists_node? (split : list.entries = front ++ (handle, element) :: back) :
    ∃ node, list.node? handle = some node ∧ node.element = element := by
  obtain ⟨chain, represents⟩ := linked
  obtain ⟨before, index, after, rfl, _, rfl, _⟩ := represents.exists_split split
  exact ⟨_, represents.node?_handleOf, rfl⟩

theorem node?_eq_none (absent : handle ∉ list.entries.map Prod.fst) :
    list.node? handle = none := by
  obtain ⟨chain, represents⟩ := linked
  rw [node?_eq]
  split
  · rename_i current
    cases found : list.nodeAt? handle.index with
    | none => rfl
    | some node =>
      refine absurd ?_ absent
      obtain ⟨entry, member, same⟩ := List.mem_map.mp (represents.covers found)
      rw [represents.entries_label, List.map_map, current, ← same]
      exact List.mem_map_of_mem member
  · rfl

theorem erase_eq (split : list.entries = front ++ (handle, element) :: back) :
    (list.erase handle).1 = some element ∧ (list.erase handle).2.entries = front ++ back := by
  obtain ⟨chain, represents⟩ := linked
  obtain ⟨before, index, after, rfl, rfl, rfl, rfl⟩ := represents.exists_split split
  rw [erase_of_node? represents.node?_handleOf]
  exact ⟨rfl, represents.entries_cut (represents.node rfl)⟩

theorem erase_of_absent (absent : handle ∉ list.entries.map Prod.fst) :
    list.erase handle = (none, list) := by
  simp only [SlotList.erase, linked.node?_eq_none absent]

theorem modify?_eq (split : list.entries = front ++ (handle, element) :: back)
    (change : α → α) :
    ∃ changed, list.modify? handle change = some changed ∧
      changed.entries = front ++ (handle, change element) :: back := by
  obtain ⟨chain, represents⟩ := linked
  obtain ⟨before, index, after, rfl, rfl, rfl, rfl⟩ := represents.exists_split split
  have around := represents.not_mem_around rfl
  have untouched {others : List (Nat × α)} (outside : index ∉ others.map Prod.fst) :
      others.map (changeAt index change) = others := by
    refine (List.map_congr_left fun entry member => ?_).trans others.map_id
    have distinct : index ≠ entry.1 := fun same => outside (same ▸ List.mem_map_of_mem member)
    rw [changeAt, if_neg distinct]
    rfl
  have changed : changeAt index change (index, element) = (index, change element) := by
    rw [changeAt, if_pos rfl]
  refine ⟨_, by rw [SlotList.modify?, represents.node?_handleOf]; rfl, ?_⟩
  rw [index_handleOf, represents.entries_modifyNode, List.map_append, List.map_cons,
    untouched around.1, untouched around.2, changed, List.map_append, List.map_cons]
  rfl

theorem modify?_of_absent (absent : handle ∉ list.entries.map Prod.fst) (change : α → α) :
    list.modify? handle change = none := by
  rw [SlotList.modify?, linked.node?_eq_none absent, Option.map_none]

end IsLinked

end GroupChat.SlotList

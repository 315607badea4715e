import GroupChat.Proofs.SlotList.Links
import GroupChat.SlotList.Access
import Mathlib.Data.List.Sort
import Mathlib.Data.List.TakeWhile

/-!
What the slots of a list represent: a chain of elements, each in a slot of its own. Nodes link to
the neighbours in the chain, and no slot outside of the chain has a node.
-/
namespace GroupChat.SlotList

variable {α : Type} {collation : Collation α} {list : SlotList collation}
variable {chain front back : List (Nat × α)}

def firstSlot (chain : List (Nat × α)) : Option Nat := chain.head?.map Prod.fst

def lastSlot (chain : List (Nat × α)) : Option Nat := chain.getLast?.map Prod.fst

@[simp] theorem firstSlot_nil : firstSlot ([] : List (Nat × α)) = none := rfl

@[simp] theorem firstSlot_cons (entry : Nat × α) (chain : List (Nat × α)) :
    firstSlot (entry :: chain) = some entry.1 := rfl

@[simp] theorem lastSlot_nil : lastSlot ([] : List (Nat × α)) = none := rfl

@[simp] theorem lastSlot_append (front back : List (Nat × α)) :
    lastSlot (front ++ back) = (lastSlot back).or (lastSlot front) := by
  simp only [lastSlot, List.getLast?_append]
  cases back.getLast? <;> simp

@[simp] theorem lastSlot_cons (entry : Nat × α) (chain : List (Nat × α)) :
    lastSlot (entry :: chain) = (lastSlot chain).or (some entry.1) :=
  lastSlot_append [entry] chain

theorem mem_of_firstSlot {index : Nat} (first : firstSlot chain = some index) :
    index ∈ chain.map Prod.fst := by
  obtain ⟨entry, head, rfl⟩ := Option.map_eq_some_iff.mp first
  exact List.mem_map_of_mem (List.mem_of_mem_head? head)

theorem mem_of_lastSlot {index : Nat} (last : lastSlot chain = some index) :
    index ∈ chain.map Prod.fst := by
  obtain ⟨entry, tail, rfl⟩ := Option.map_eq_some_iff.mp last
  exact List.mem_map_of_mem (List.mem_of_getLast? tail)

theorem firstSlot_eq_some_iff {between after : List (Nat × α)} {index : Nat} {element : α}
    (outside : index ∉ between.map Prod.fst) :
    firstSlot (between ++ (index, element) :: after) = some index ↔ between = [] := by
  cases between with
  | nil => simp
  | cons first rest =>
    have distinct : first.1 ≠ index := fun same => outside (by simp [same])
    simp [firstSlot, distinct]

theorem lastSlot_eq_some_iff {before between : List (Nat × α)} {index : Nat} {element : α}
    (outside : index ∉ between.map Prod.fst) :
    lastSlot (before ++ (index, element) :: between) = some index ↔ between = [] := by
  rw [lastSlot_append, lastSlot_cons]
  cases last : lastSlot between with
  | none => simpa [lastSlot] using last
  | some other =>
    have member := mem_of_lastSlot last
    have distinct : other ≠ index := fun same => outside (same ▸ member)
    have nonempty : between ≠ [] := fun empty => by simp [empty] at last
    simp [distinct, nonempty]

theorem append_cons_cases {β : Type} {front back before after : List β} {x y : β}
    (split : front ++ x :: back = before ++ y :: after) :
    (∃ between, front = before ++ y :: between ∧ after = between ++ x :: back) ∨
      (before = front ∧ y = x ∧ after = back) ∨
      ∃ between, before = front ++ x :: between ∧ back = between ++ y :: after := by
  obtain ⟨between, rfl, tail⟩ | ⟨between, rfl, tail⟩ := List.append_eq_append_iff.mp split
  · obtain ⟨rfl, same⟩ | ⟨rest, rfl, rfl⟩ := List.cons_eq_append_iff.mp tail
    · simp at same
      simp [same]
    · exact .inr (.inr ⟨rest, rfl, rfl⟩)
  · obtain ⟨rfl, same⟩ | ⟨rest, rfl, rfl⟩ := List.cons_eq_append_iff.mp tail
    · simp at same
      simp [same]
    · exact .inl ⟨rest, rfl, rfl⟩

structure Represents (list : SlotList collation) (chain : List (Nat × α)) : Prop where
  node : ∀ {front index element back}, chain = front ++ (index, element) :: back →
    list.nodeAt? index = some ⟨element, lastSlot front, firstSlot back⟩
  head : list.head = firstSlot chain
  tail : list.tail = lastSlot chain
  size : list.size = chain.length
  nodup : (chain.map Prod.fst).Nodup
  covers : ∀ {index node}, list.nodeAt? index = some node → index ∈ chain.map Prod.fst
  free : list.TracksFree

theorem represents_empty : (empty : SlotList collation).Represents [] where
  node split := by simp at split
  head := rfl
  tail := rfl
  size := rfl
  nodup := List.nodup_nil
  covers found := by simp [nodeAt?, empty] at found
  free := ⟨List.nodup_nil, fun index => by simp [empty]⟩

def slotBefore (list : SlotList collation) (next : Option Nat) : Option Nat :=
  match next with
  | some index => (list.nodeAt? index).bind Node.previous
  | none => list.tail

/-- Stores a node and makes its neighbours link to it. -/
def splice (list : SlotList collation) (node : Node α) : SlotList collation :=
  let stored := list.store node
  let linked := (stored.2.linkNext node.previous (some stored.1)).linkPrevious node.next
    (some stored.1)
  { linked with size := linked.size + 1 }

theorem insertBefore_eq (list : SlotList collation) (element : α) (next : Option Nat) :
    (list.insertBefore element next).2 = list.splice ⟨element, list.slotBefore next, next⟩ := rfl

theorem index_insertBefore (list : SlotList collation) (element : α) (next : Option Nat) :
    (list.insertBefore element next).1.index =
      (list.store ⟨element, list.slotBefore next, next⟩).1 := rfl

theorem head_splice (list : SlotList collation) (node : Node α) :
    (list.splice node).head =
      if node.previous = none then some (list.store node).1 else list.head := by
  simp [splice, head_linkNext]

theorem tail_splice (list : SlotList collation) (node : Node α) :
    (list.splice node).tail =
      if node.next = none then some (list.store node).1 else list.tail := by
  simp [splice, tail_linkPrevious]

theorem size_splice (list : SlotList collation) (node : Node α) :
    (list.splice node).size = list.size + 1 := by
  simp [splice]

namespace TracksFree

theorem splice (tracks : list.TracksFree) (node : Node α) : (list.splice node).TracksFree :=
  have linked := ((tracks.store node).linkNext node.previous _).linkPrevious node.next _
  ⟨linked.nodup, linked.mem_iff⟩

theorem nodeAt?_splice (tracks : list.TracksFree) (node : Node α) (index : Nat) :
    (list.splice node).nodeAt? index =
      (if index = (list.store node).1 then some node else list.nodeAt? index).map fun found =>
        { found with
          next := if node.previous = some index then some (list.store node).1 else found.next
          previous :=
            if node.next = some index then some (list.store node).1 else found.previous } := by
  rw [← tracks.nodeAt?_store]
  change (SlotList.linkPrevious (SlotList.linkNext _ _ _) _ _).nodeAt? index = _
  rw [nodeAt?_linkPrevious, nodeAt?_linkNext]
  split <;> split <;> simp [Function.comp_def]

end TracksFree

namespace Represents

theorem exists_node (represents : list.Represents chain) {index : Nat}
    (member : index ∈ chain.map Prod.fst) : ∃ node, list.nodeAt? index = some node := by
  obtain ⟨⟨_, element⟩, present, rfl⟩ := List.mem_map.mp member
  obtain ⟨front, back, split⟩ := List.append_of_mem present
  exact ⟨_, represents.node split⟩

theorem length_le (represents : list.Represents chain) : chain.length ≤ list.slots.size := by
  have inside : chain.map Prod.fst ⊆ List.range list.slots.size := by
    intro index member
    obtain ⟨node, found⟩ := represents.exists_node member
    exact List.mem_range.mpr (lt_size_of_nodeAt? found)
  simpa using (List.subperm_of_subset represents.nodup inside).length_le

theorem walk_eq (represents : list.Represents chain) (split : chain = front ++ back) {steps : Nat}
    (enough : back.length ≤ steps) :
    list.walk steps (firstSlot back) =
      back.map fun entry => (list.handleOf entry.1, entry.2) := by
  induction back generalizing front steps with
  | nil => cases steps <;> rfl
  | cons entry rest ih =>
    obtain ⟨index, element⟩ := entry
    cases steps with
    | zero => simp at enough
    | succ steps =>
      have further : chain = (front ++ [(index, element)]) ++ rest := by simpa using split
      rw [firstSlot_cons, walk, represents.node split, List.map_cons]
      exact congrArg _ (ih further (Nat.le_of_succ_le_succ enough))

theorem entries_eq (represents : list.Represents chain) :
    list.entries = chain.map fun entry => (list.handleOf entry.1, entry.2) := by
  rw [entries, represents.head]
  exact represents.walk_eq (List.nil_append chain).symm represents.length_le

theorem elements_eq (represents : list.Represents chain) :
    list.elements = chain.map Prod.snd := by
  rw [elements, represents.entries_eq, List.map_map]
  rfl

theorem slotBefore_firstSlot (represents : list.Represents (front ++ back)) :
    list.slotBefore (firstSlot back) = lastSlot front := by
  cases back with
  | nil =>
    have tail := represents.tail
    rwa [List.append_nil] at tail
  | cons entry rest =>
    obtain ⟨index, element⟩ := entry
    simp only [slotBefore, firstSlot_cons, represents.node rfl, Option.bind_some]

theorem vacant_not_mem (represents : list.Represents chain) {index : Nat}
    (vacant : list.nodeAt? index = none) : index ∉ chain.map Prod.fst := by
  intro member
  obtain ⟨node, found⟩ := represents.exists_node member
  rw [vacant] at found
  contradiction

theorem not_mem_around (represents : list.Represents chain) {index : Nat} {element : α}
    (split : chain = front ++ (index, element) :: back) :
    index ∉ front.map Prod.fst ∧ index ∉ back.map Prod.fst := by
  have nodup := represents.nodup
  rw [split, List.map_append, List.map_cons, List.nodup_middle, List.nodup_cons,
    List.mem_append, not_or] at nodup
  exact nodup.1

theorem nodeAt?_splice (represents : list.Represents (front ++ back)) {element entry : α}
    {before after : List (Nat × α)} {fresh index : Nat}
    (stored : (list.store ⟨element, lastSlot front, firstSlot back⟩).1 = fresh)
    (split : front ++ (fresh, element) :: back = before ++ (index, entry) :: after) :
    (list.splice ⟨element, lastSlot front, firstSlot back⟩).nodeAt? index =
      some ⟨entry, lastSlot before, firstSlot after⟩ := by
  have vacant := represents.free.store_vacant ⟨element, lastSlot front, firstSlot back⟩
  rw [stored] at vacant
  have outside := represents.vacant_not_mem vacant
  rw [List.map_append, List.mem_append, not_or] at outside
  rw [represents.free.nodeAt?_splice, stored]
  obtain ⟨between, rfl, rfl⟩ | ⟨rfl, same, rfl⟩ | ⟨between, rfl, rfl⟩ := append_cons_cases split
  · -- The node stands in front, where only the last one is linked anew.
    have place : before ++ (index, entry) :: between ++ back =
        before ++ (index, entry) :: (between ++ back) := by simp
    have around := (represents.not_mem_around place).2
    rw [List.map_append, List.mem_append, not_or] at around
    have notFresh : index ≠ fresh := fun same => outside.1 (by simp [same])
    have notNext : firstSlot back ≠ some index := fun first => around.2 (mem_of_firstSlot first)
    rw [if_neg notFresh, represents.node place]
    simp only [Option.map_some, lastSlot_eq_some_iff around.1, if_neg notNext]
    cases between <;> simp
  · -- The node is the new one itself.
    obtain ⟨rfl, rfl⟩ := Prod.mk.inj same
    have notLast : lastSlot before ≠ some index := fun last => outside.1 (mem_of_lastSlot last)
    have notFirst : firstSlot after ≠ some index := fun first => outside.2 (mem_of_firstSlot first)
    simp only [if_true, Option.map_some, if_neg notLast, if_neg notFirst]
  · -- The node stands behind, where only the first one is linked anew.
    have place : front ++ (between ++ (index, entry) :: after) =
        front ++ between ++ (index, entry) :: after := by simp
    have around := (represents.not_mem_around place).1
    rw [List.map_append, List.mem_append, not_or] at around
    have notFresh : index ≠ fresh := fun same => outside.2 (by simp [same])
    have notLast : lastSlot front ≠ some index := fun last => around.1 (mem_of_lastSlot last)
    rw [if_neg notFresh, represents.node place]
    simp only [Option.map_some, firstSlot_eq_some_iff around.2, if_neg notLast]
    cases between <;> simp

theorem splice (represents : list.Represents (front ++ back)) (element : α) {node : Node α}
    (links : node = ⟨element, lastSlot front, firstSlot back⟩) :
    (list.splice node).Represents (front ++ ((list.store node).1, element) :: back) := by
  subst links
  have outside := represents.vacant_not_mem
    (represents.free.store_vacant ⟨element, lastSlot front, firstSlot back⟩)
  refine ⟨fun split => represents.nodeAt?_splice rfl split, ?_, ?_, ?_, ?_, ?_,
    represents.free.splice _⟩
  · rw [head_splice, represents.head]
    cases front <;> simp
  · rw [tail_splice, represents.tail]
    cases back <;> simp
  · rw [size_splice, represents.size]
    simp only [List.length_append, List.length_cons, Nat.add_assoc]
  · rw [List.map_append, List.map_cons, List.nodup_middle, ← List.map_append]
    exact List.nodup_cons.mpr ⟨outside, represents.nodup⟩
  · intro index found located
    rw [represents.free.nodeAt?_splice] at located
    by_cases same : index = (list.store ⟨element, lastSlot front, firstSlot back⟩).1
    · simp [same]
    · rw [if_neg same, Option.map_eq_some_iff] at located
      obtain ⟨old, located, _⟩ := located
      have member := represents.covers located
      rw [List.map_append, List.mem_append] at member
      rw [List.map_append, List.map_cons, List.mem_append, List.mem_cons]
      exact member.imp_right .inr

theorem insertBefore (represents : list.Represents (front ++ back)) (element : α) :
    (list.insertBefore element (firstSlot back)).2.Represents
      (front ++ ((list.insertBefore element (firstSlot back)).1.index, element) :: back) := by
  rw [insertBefore_eq, index_insertBefore]
  exact represents.splice element (by rw [represents.slotBefore_firstSlot])

def stays (collation : Collation α) (element : α) (entry : Nat × α) : Bool :=
  ¬ collation.compare element entry.2 = .lt

theorem insert_eq (represents : list.Represents chain) (element : α) :
    list.insert element =
      list.insertBefore element (firstSlot (chain.dropWhile (stays collation element))) := by
  have next : (list.entries.find? fun entry => collation.compare element entry.2 = .lt).map
      (fun entry => entry.1.index) = firstSlot (chain.dropWhile (stays collation element)) := by
    have behind : (fun entry : Nat × α => !decide (collation.compare element entry.2 = .lt)) =
        stays collation element := by
      funext entry
      simp [stays]
    rw [represents.entries_eq, List.find?_map, List.find?_eq_head?_dropWhile_not]
    simp only [Function.comp_apply, behind, firstSlot, Option.map_map]
    rfl
  rw [← next]
  rfl

theorem insert (represents : list.Represents chain) (element : α) :
    (list.insert element).2.Represents
      (chain.takeWhile (stays collation element) ++
        ((list.insert element).1.index, element) :: chain.dropWhile (stays collation element)) := by
  rw [represents.insert_eq]
  rw [← List.takeWhile_append_dropWhile (p := stays collation element) (l := chain)] at represents
  exact represents.insertBefore element

end Represents

/-- A list is linked when its slots represent some chain. -/
def IsLinked (list : SlotList collation) : Prop := ∃ chain, list.Represents chain

namespace IsLinked

theorem empty : (SlotList.empty : SlotList collation).IsLinked := ⟨[], represents_empty⟩

theorem insert (linked : list.IsLinked) (element : α) : (list.insert element).2.IsLinked := by
  obtain ⟨_, represents⟩ := linked
  exact ⟨_, represents.insert element⟩

theorem size_eq (linked : list.IsLinked) : list.size = list.elements.length := by
  obtain ⟨_, represents⟩ := linked
  rw [represents.elements_eq, represents.size, List.length_map]

theorem elements_insert (linked : list.IsLinked) (element : α) :
    (list.insert element).2.elements =
      list.elements.orderedInsert (collation.compare · · = .lt) element := by
  obtain ⟨chain, represents⟩ := linked
  rw [(represents.insert element).elements_eq, represents.elements_eq,
    List.orderedInsert_eq_take_drop, List.takeWhile_map, List.dropWhile_map, List.map_append]
  rfl

end IsLinked

end GroupChat.SlotList

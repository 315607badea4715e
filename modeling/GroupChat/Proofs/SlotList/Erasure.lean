import GroupChat.Proofs.SlotList.Chain

/-!
Taking elements out of a list, and changing them where they stand. When an element leaves, its
neighbours in the chain link to each other and its slot is free again. A change touches no link.
-/
namespace GroupChat.SlotList

variable {α : Type} {collation : Collation α} {list : SlotList collation}
variable {chain front back : List (Nat × α)} {index : Nat}

/-- Empties a slot, and makes what stands around its node link to each other. -/
def cut (list : SlotList collation) (index : Nat) (node : Node α) : SlotList collation :=
  ((list.release index).linkNext node.previous node.next).linkPrevious node.next node.previous

theorem nodeAt?_of_node? {handle : Handle} {node : Node α} (live : list.node? handle = some node) :
    list.nodeAt? handle.index = some node := by
  unfold node? at live
  unfold nodeAt?
  cases found : list.slots[handle.index]? with
  | none => simp [found] at live
  | some slot =>
    simp only [found] at live
    split at live
    · exact live
    · contradiction

theorem erase_of_node? {handle : Handle} {node : Node α} (live : list.node? handle = some node) :
    list.erase handle = (some node.element, list.cut handle.index node) := by
  simp only [erase, live]
  rfl

theorem nodeAt?_release (list : SlotList collation) (index other : Nat) :
    (list.release index).nodeAt? other = if index = other then none else list.nodeAt? other := by
  simp only [nodeAt?, release, Array.getElem?_modify]
  split
  · cases list.slots[other]? <;> rfl
  · rfl

theorem nodeAt?_cut (list : SlotList collation) (index : Nat) (node : Node α) (other : Nat) :
    (list.cut index node).nodeAt? other =
      (if index = other then none else list.nodeAt? other).map fun found =>
        { found with
          next := if node.previous = some other then node.next else found.next
          previous := if node.next = some other then node.previous else found.previous } := by
  rw [← nodeAt?_release, cut, nodeAt?_linkPrevious, nodeAt?_linkNext]
  split <;> split <;> simp [Function.comp_def]

namespace TracksFree

theorem release (tracks : list.TracksFree) {node : Node α}
    (occupied : list.nodeAt? index = some node) : (list.release index).TracksFree where
  nodup := by
    refine List.nodup_cons.mpr ⟨fun member => ?_, tracks.nodup⟩
    have vacant := ((tracks.mem_iff index).mp member).2
    rw [occupied] at vacant
    contradiction
  mem_iff other := by
    have inside := lt_size_of_nodeAt? occupied
    have size : (list.release index).slots.size = list.slots.size := by simp [SlotList.release]
    have free : (list.release index).free = index :: list.free := rfl
    rw [size, free, List.mem_cons, nodeAt?_release, tracks.mem_iff]
    by_cases same : index = other
    · simp [← same, inside]
    · simp [same, Ne.symm same]

theorem cut (tracks : list.TracksFree) {node : Node α} (occupied : list.nodeAt? index = some node) :
    (list.cut index node).TracksFree :=
  ((tracks.release occupied).linkNext node.previous node.next).linkPrevious node.next node.previous

theorem modifyNode (tracks : list.TracksFree) (index : Nat) (change : Node α → Node α) :
    (list.modifyNode index change).TracksFree where
  nodup := tracks.nodup
  mem_iff other := by
    have size : (list.modifyNode index change).slots.size = list.slots.size := by
      simp [SlotList.modifyNode]
    rw [size, nodeAt?_modifyNode]
    refine (tracks.mem_iff other).trans ?_
    split <;> simp

end TracksFree

theorem append_eq_append_cons {β : Type} {front back before after : List β} {x : β}
    (split : front ++ back = before ++ x :: after) :
    (∃ between, before = front ++ between ∧ back = between ++ x :: after) ∨
      ∃ between, front = before ++ x :: between ∧ after = between ++ back := by
  obtain ⟨between, rfl, tail⟩ | ⟨between, rfl, tail⟩ := List.append_eq_append_iff.mp split
  · exact .inl ⟨between, rfl, tail⟩
  · obtain ⟨rfl, rfl⟩ | ⟨rest, rfl, rfl⟩ := List.cons_eq_append_iff.mp tail
    · exact .inl ⟨[], by simp, rfl⟩
    · exact .inr ⟨rest, rfl, rfl⟩

def changeAt (index : Nat) (change : α → α) (entry : Nat × α) : Nat × α :=
  (entry.1, if index = entry.1 then change entry.2 else entry.2)

theorem map_fst_changeAt (change : α → α) (chain : List (Nat × α)) :
    (chain.map (changeAt index change)).map Prod.fst = chain.map Prod.fst := by
  rw [List.map_map]
  rfl

theorem firstSlot_changeAt (change : α → α) (chain : List (Nat × α)) :
    firstSlot (chain.map (changeAt index change)) = firstSlot chain := by
  rw [firstSlot, firstSlot, List.head?_map, Option.map_map]
  rfl

theorem lastSlot_changeAt (change : α → α) (chain : List (Nat × α)) :
    lastSlot (chain.map (changeAt index change)) = lastSlot chain := by
  rw [lastSlot, lastSlot, List.getLast?_map, Option.map_map]
  rfl

namespace Represents

theorem nodeAt?_cut {element entry : α} {before after : List (Nat × α)} {other : Nat}
    (represents : list.Represents (front ++ (index, element) :: back))
    (split : front ++ back = before ++ (other, entry) :: after) :
    (list.cut index ⟨element, lastSlot front, firstSlot back⟩).nodeAt? other =
      some ⟨entry, lastSlot before, firstSlot after⟩ := by
  rw [SlotList.nodeAt?_cut]
  obtain ⟨between, rfl, rfl⟩ | ⟨between, rfl, rfl⟩ := append_eq_append_cons split
  · -- The node stands behind the one that leaves, where only the first one is linked anew.
    have place : front ++ (index, element) :: (between ++ (other, entry) :: after) =
        (front ++ (index, element) :: between) ++ (other, entry) :: after := by simp
    have around := (represents.not_mem_around place).1
    rw [List.map_append, List.map_cons, List.mem_append, List.mem_cons, not_or, not_or] at around
    obtain ⟨notFront, notGone, notBetween⟩ := around
    have notLast : lastSlot front ≠ some other := fun last => notFront (mem_of_lastSlot last)
    rw [if_neg (Ne.symm notGone), represents.node place]
    simp only [Option.map_some, if_neg notLast, firstSlot_eq_some_iff notBetween]
    cases between <;> simp
  · -- The node stands before the one that leaves, where only the last one is linked anew.
    have place : before ++ (other, entry) :: between ++ (index, element) :: back =
        before ++ (other, entry) :: (between ++ (index, element) :: back) := by simp
    have around := (represents.not_mem_around place).2
    rw [List.map_append, List.map_cons, List.mem_append, List.mem_cons, not_or, not_or] at around
    obtain ⟨notBetween, notGone, notBack⟩ := around
    have notFirst : firstSlot back ≠ some other := fun first => notBack (mem_of_firstSlot first)
    rw [if_neg (Ne.symm notGone), represents.node place]
    simp only [Option.map_some, if_neg notFirst, lastSlot_eq_some_iff notBetween]
    cases between <;> simp

theorem cut {element : α} {node : Node α}
    (represents : list.Represents (front ++ (index, element) :: back))
    (occupied : list.nodeAt? index = some node) :
    (list.cut index node).Represents (front ++ back) := by
  have links := represents.node rfl
  rw [occupied, Option.some.injEq] at links
  subst links
  have around := represents.not_mem_around rfl
  refine ⟨fun split => represents.nodeAt?_cut split, ?_, ?_, ?_, ?_, ?_,
    represents.free.cut occupied⟩
  · rw [SlotList.cut, head_linkPrevious, head_linkNext]
    change (if lastSlot front = none then _ else list.head) = _
    rw [represents.head]
    cases front <;> simp
  · rw [SlotList.cut, tail_linkPrevious, tail_linkNext]
    change (if firstSlot back = none then _ else list.tail) = _
    rw [represents.tail]
    cases back <;> simp
  · rw [SlotList.cut, size_linkPrevious, size_linkNext]
    change list.size - 1 = _
    rw [represents.size]
    simp
  · have nodup := represents.nodup
    rw [List.map_append, List.map_cons, List.nodup_middle, List.nodup_cons,
      ← List.map_append] at nodup
    exact nodup.2
  · intro other found located
    rw [SlotList.nodeAt?_cut] at located
    by_cases same : index = other
    · simp [same] at located
    · rw [if_neg same, Option.map_eq_some_iff] at located
      obtain ⟨old, located, _⟩ := located
      have member := represents.covers located
      rw [List.map_append, List.map_cons, List.mem_append, List.mem_cons] at member
      rw [List.map_append, List.mem_append]
      exact member.imp_right fun rest => rest.resolve_left (Ne.symm same)

theorem modifyNode (represents : list.Represents chain) (index : Nat) (change : α → α) :
    (list.modifyNode index fun node => { node with element := change node.element }).Represents
      (chain.map (changeAt index change)) where
  node split := by
    obtain ⟨front, rest, rfl, rfl, tail⟩ := List.map_eq_append_iff.mp split
    obtain ⟨⟨other, element⟩, back, rfl, same, rfl⟩ := List.map_eq_cons_iff.mp tail
    obtain ⟨rfl, rfl⟩ := Prod.mk.inj same
    rw [nodeAt?_modifyNode, represents.node rfl, firstSlot_changeAt, lastSlot_changeAt]
    split <;> rfl
  head := represents.head.trans (firstSlot_changeAt change chain).symm
  tail := represents.tail.trans (lastSlot_changeAt change chain).symm
  size := represents.size.trans (List.length_map _).symm
  nodup := (map_fst_changeAt change chain).symm ▸ represents.nodup
  covers found := by
    rw [map_fst_changeAt]
    rw [nodeAt?_modifyNode] at found
    split at found
    · obtain ⟨_, located, _⟩ := Option.map_eq_some_iff.mp found
      exact represents.covers located
    · exact represents.covers found
  free := represents.free.modifyNode index _

end Represents

namespace IsLinked

theorem erase (linked : list.IsLinked) (handle : Handle) : (list.erase handle).2.IsLinked := by
  cases live : list.node? handle with
  | none =>
    simp only [SlotList.erase, live]
    exact linked
  | some node =>
    obtain ⟨chain, represents⟩ := linked
    have occupied := nodeAt?_of_node? live
    obtain ⟨⟨_, element⟩, present, rfl⟩ := List.mem_map.mp (represents.covers occupied)
    obtain ⟨front, back, rfl⟩ := List.append_of_mem present
    rw [erase_of_node? live]
    exact ⟨_, represents.cut occupied⟩

theorem modify? {changed : SlotList collation} {handle : Handle} {change : α → α}
    (linked : list.IsLinked) (found : list.modify? handle change = some changed) :
    changed.IsLinked := by
  obtain ⟨chain, represents⟩ := linked
  obtain ⟨_, _, rfl⟩ := Option.map_eq_some_iff.mp found
  exact ⟨_, represents.modifyNode handle.index change⟩

end IsLinked

end GroupChat.SlotList

import GroupChat.SlotList.Basic

/-!
What the elementary changes to the slots of a list do to its nodes, its ends and its free slots.
-/
namespace GroupChat.SlotList

variable {α : Type} {collation : Collation α} {list : SlotList collation}

/-! ### Nodes and links -/

theorem nodeAt?_modifyNode (list : SlotList collation) (index other : Nat)
    (change : Node α → Node α) :
    (list.modifyNode index change).nodeAt? other =
      if index = other then (list.nodeAt? other).map change else list.nodeAt? other := by
  simp only [nodeAt?, modifyNode, Array.getElem?_modify]
  split
  · cases list.slots[other]? <;> rfl
  · rfl

theorem nodeAt?_linkNext (list : SlotList collation) (previous next : Option Nat) (index : Nat) :
    (list.linkNext previous next).nodeAt? index =
      if previous = some index then (list.nodeAt? index).map fun node => { node with next }
      else list.nodeAt? index := by
  cases previous with
  | none => rfl
  | some previous => simp only [linkNext, nodeAt?_modifyNode, Option.some.injEq]

theorem nodeAt?_linkPrevious (list : SlotList collation) (next previous : Option Nat)
    (index : Nat) :
    (list.linkPrevious next previous).nodeAt? index =
      if next = some index then (list.nodeAt? index).map fun node => { node with previous }
      else list.nodeAt? index := by
  cases next with
  | none => rfl
  | some next => simp only [linkPrevious, nodeAt?_modifyNode, Option.some.injEq]

theorem head_linkNext (list : SlotList collation) (previous next : Option Nat) :
    (list.linkNext previous next).head = if previous = none then next else list.head := by
  cases previous <;> rfl

theorem tail_linkPrevious (list : SlotList collation) (next previous : Option Nat) :
    (list.linkPrevious next previous).tail = if next = none then previous else list.tail := by
  cases next <;> rfl

@[simp] theorem tail_linkNext (list : SlotList collation) (previous next : Option Nat) :
    (list.linkNext previous next).tail = list.tail := by
  cases previous <;> rfl

@[simp] theorem head_linkPrevious (list : SlotList collation) (next previous : Option Nat) :
    (list.linkPrevious next previous).head = list.head := by
  cases next <;> rfl

@[simp] theorem size_linkNext (list : SlotList collation) (previous next : Option Nat) :
    (list.linkNext previous next).size = list.size := by
  cases previous <;> rfl

@[simp] theorem size_linkPrevious (list : SlotList collation) (next previous : Option Nat) :
    (list.linkPrevious next previous).size = list.size := by
  cases next <;> rfl

@[simp] theorem free_linkNext (list : SlotList collation) (previous next : Option Nat) :
    (list.linkNext previous next).free = list.free := by
  cases previous <;> rfl

@[simp] theorem free_linkPrevious (list : SlotList collation) (next previous : Option Nat) :
    (list.linkPrevious next previous).free = list.free := by
  cases next <;> rfl

@[simp] theorem size_slots_linkNext (list : SlotList collation) (previous next : Option Nat) :
    (list.linkNext previous next).slots.size = list.slots.size := by
  cases previous <;> simp [linkNext, modifyNode]

@[simp] theorem size_slots_linkPrevious (list : SlotList collation) (next previous : Option Nat) :
    (list.linkPrevious next previous).slots.size = list.slots.size := by
  cases next <;> simp [linkPrevious, modifyNode]

@[simp] theorem head_store (list : SlotList collation) (node : Node α) :
    (list.store node).2.head = list.head := by
  unfold store
  split <;> rfl

@[simp] theorem tail_store (list : SlotList collation) (node : Node α) :
    (list.store node).2.tail = list.tail := by
  unfold store
  split <;> rfl

@[simp] theorem size_store (list : SlotList collation) (node : Node α) :
    (list.store node).2.size = list.size := by
  unfold store
  split <;> rfl

/-! ### Free slots -/

/-- The free slots are those without a node, each of them once. -/
structure TracksFree (list : SlotList collation) : Prop where
  nodup : list.free.Nodup
  mem_iff : ∀ index, index ∈ list.free ↔ index < list.slots.size ∧ list.nodeAt? index = none

theorem lt_size_of_nodeAt? {index : Nat} {node : Node α}
    (occupied : list.nodeAt? index = some node) : index < list.slots.size := by
  obtain ⟨slot, found, _⟩ := Option.bind_eq_some_iff.mp occupied
  exact (Array.getElem?_eq_some_iff.mp found).1

namespace TracksFree

theorem store_vacant (tracks : list.TracksFree) (node : Node α) :
    list.nodeAt? (list.store node).1 = none := by
  unfold store
  split
  · rename_i index free found
    exact ((tracks.mem_iff index).mp (found ▸ List.mem_cons_self)).2
  · simp [nodeAt?]

theorem nodeAt?_store (tracks : list.TracksFree) (node : Node α) (index : Nat) :
    (list.store node).2.nodeAt? index =
      if index = (list.store node).1 then some node else list.nodeAt? index := by
  unfold store
  split
  · rename_i first free found
    have inside := ((tracks.mem_iff first).mp (found ▸ List.mem_cons_self)).1
    simp only [nodeAt?, Array.getElem?_modify, eq_comm (a := index)]
    split
    · rename_i same
      rw [← same, Array.getElem?_eq_getElem inside]
      rfl
    · rfl
  · simp only [nodeAt?, Array.getElem?_push]
    split <;> rfl

theorem store (tracks : list.TracksFree) (node : Node α) : (list.store node).2.TracksFree where
  nodup := by
    unfold SlotList.store
    split
    · rename_i first free found
      exact (List.nodup_cons.mp (found ▸ tracks.nodup)).2
    · exact tracks.nodup
  mem_iff index := by
    rw [tracks.nodeAt?_store]
    have former := tracks.mem_iff index
    unfold SlotList.store
    split
    · rename_i first free found
      have distinct := (List.nodup_cons.mp (found ▸ tracks.nodup)).1
      rw [found] at former
      by_cases same : index = first
      · simp [same, distinct]
      · simpa [same] using former
    · rename_i found
      rw [found] at former
      by_cases same : index = list.slots.size
      · simp [same, found]
      · have outside : index < list.slots.size + 1 ↔ index < list.slots.size := by omega
        simpa [same, found, outside] using former

theorem linkNext (tracks : list.TracksFree) (previous next : Option Nat) :
    (list.linkNext previous next).TracksFree where
  nodup := by
    rw [free_linkNext]
    exact tracks.nodup
  mem_iff index := by
    rw [free_linkNext, size_slots_linkNext, nodeAt?_linkNext, tracks.mem_iff]
    split <;> simp

theorem linkPrevious (tracks : list.TracksFree) (next previous : Option Nat) :
    (list.linkPrevious next previous).TracksFree where
  nodup := by
    rw [free_linkPrevious]
    exact tracks.nodup
  mem_iff index := by
    rw [free_linkPrevious, size_slots_linkPrevious, nodeAt?_linkPrevious, tracks.mem_iff]
    split <;> simp

end TracksFree

end GroupChat.SlotList

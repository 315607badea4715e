import GroupChat.SlotList.StorageError

/-!
Doubly linked lists whose nodes live in slots of an array. A handle names a slot and the generation
of the slot at which it was given out; a slot that gives up its node moves on to the next generation,
so a handle goes stale with its node. Slots are used again, the one last freed first.

How elements compare and print is settled once for a list, by the `Collation` in its type. Elements
that a list lets go for good are handed back in the order in which they leave.
-/
namespace GroupChat

structure Collation (α : Type) where
  compare : α → α → Ordering
  print : α → String

def Collation.ofOrd {α : Type} [Ord α] (text : α → String) : Collation α where
  compare := Ord.compare
  print element := text element ++ "\n"

structure Handle where
  index : Nat
  generation : UInt32
deriving DecidableEq

structure Node (α : Type) where
  element : α
  previous : Option Nat
  next : Option Nat

structure Slot (α : Type) where
  generation : UInt32
  node : Option (Node α)

structure SlotList {α : Type} (collation : Collation α) where
  slots : Array (Slot α)
  free : List Nat
  head : Option Nat
  tail : Option Nat
  size : Nat

namespace SlotList

variable {α : Type} {collation : Collation α}

def empty : SlotList collation where
  slots := #[]
  free := []
  head := none
  tail := none
  size := 0

def isEmpty (list : SlotList collation) : Bool := list.size == 0

def nodeAt? (list : SlotList collation) (index : Nat) : Option (Node α) :=
  list.slots[index]?.bind Slot.node

def handleOf (list : SlotList collation) (index : Nat) : Handle :=
  ⟨index, (list.slots[index]?.map Slot.generation).getD 0⟩

def node? (list : SlotList collation) (handle : Handle) : Option (Node α) :=
  match list.slots[handle.index]? with
  | some slot => if slot.generation = handle.generation then slot.node else none
  | none => none

def walk (list : SlotList collation) : (steps : Nat) → (cursor : Option Nat) → List (Handle × α)
  | 0, _ => []
  | _ + 1, none => []
  | steps + 1, some index =>
    match list.nodeAt? index with
    | some node => (list.handleOf index, node.element) :: list.walk steps node.next
    | none => []

/-- The elements in list order, each with its handle. No list has more nodes than slots. -/
def entries (list : SlotList collation) : List (Handle × α) := list.walk list.slots.size list.head

def elements (list : SlotList collation) : List α := list.entries.map Prod.snd

def handles (list : SlotList collation) : List Handle := list.entries.map Prod.fst

def modifyNode (list : SlotList collation) (index : Nat) (change : Node α → Node α) :
    SlotList collation :=
  { list with
    slots := list.slots.modify index fun slot => { slot with node := slot.node.map change } }

/-- Makes `next` what follows `previous`; where nothing comes before, the list begins with it. -/
def linkNext (list : SlotList collation) (previous next : Option Nat) : SlotList collation :=
  match previous with
  | some index => list.modifyNode index fun node => { node with next }
  | none => { list with head := next }

def linkPrevious (list : SlotList collation) (next previous : Option Nat) : SlotList collation :=
  match next with
  | some index => list.modifyNode index fun node => { node with previous }
  | none => { list with tail := previous }

/-- Puts a node into the slot last freed, or into a new one. -/
def store (list : SlotList collation) (node : Node α) : Nat × SlotList collation :=
  match list.free with
  | index :: free =>
    (index, { list with
      free
      slots := list.slots.modify index fun slot => { slot with node := some node } })
  | [] => (list.slots.size, { list with slots := list.slots.push ⟨0, some node⟩ })

def insertBefore (list : SlotList collation) (element : α) (next : Option Nat) :
    Handle × SlotList collation :=
  let previous :=
    match next with
    | some index => (list.nodeAt? index).bind Node.previous
    | none => list.tail
  let (index, list) := list.store ⟨element, previous, next⟩
  let list := list.linkNext previous (some index)
  let list := list.linkPrevious next (some index)
  (list.handleOf index, { list with size := list.size + 1 })

/-- Adds an element before the first one that it comes before, so behind all that are equal to it. -/
def insert (list : SlotList collation) (element : α) : Handle × SlotList collation :=
  let next := list.entries.find? fun (_, other) => collation.compare element other = .lt
  list.insertBefore element (next.map fun (handle, _) => handle.index)

def pushBack (list : SlotList collation) (element : α) : Handle × SlotList collation :=
  list.insertBefore element none

def pushFront (list : SlotList collation) (element : α) : Handle × SlotList collation :=
  list.insertBefore element list.head

def pushAll (list : SlotList collation) (elements : List α) : SlotList collation :=
  elements.foldl (fun list element => (list.pushBack element).2) list

def ofElements (elements : List α) : SlotList collation := empty.pushAll elements

def release (list : SlotList collation) (index : Nat) : SlotList collation :=
  { list with
    slots := list.slots.modify index fun slot => ⟨slot.generation + 1, none⟩
    free := index :: list.free
    size := list.size - 1 }

/-- Takes out the element behind a handle. A stale handle changes nothing. -/
def erase (list : SlotList collation) (handle : Handle) : Option α × SlotList collation :=
  match list.node? handle with
  | some node =>
    let list := list.release handle.index
    let list := list.linkNext node.previous node.next
    (some node.element, list.linkPrevious node.next node.previous)
  | none => (none, list)

def discard (list : SlotList collation) (handle : Handle) : List α × SlotList collation :=
  let (element, list) := list.erase handle
  (element.toList, list)

def discardFirst (list : SlotList collation) : (steps : Nat) → List α × SlotList collation
  | 0 => ([], list)
  | steps + 1 =>
    match list.head with
    | some index =>
      let (gone, list) := list.discard (list.handleOf index)
      let (others, list) := list.discardFirst steps
      (gone ++ others, list)
    | none => ([], list)

def clear (list : SlotList collation) : List α × SlotList collation :=
  list.discardFirst list.slots.size

def dismantle (list : SlotList collation) : List α := list.clear.1

def modify? (list : SlotList collation) (handle : Handle) (change : α → α) :
    Option (SlotList collation) :=
  (list.node? handle).map fun _ =>
    list.modifyNode handle.index fun node => { node with element := change node.element }

end SlotList

end GroupChat

import GroupChat.SlotList.Basic

/-!
Looking into a list: by position, by handle, by the order of its elements, and one element after the
other. Copies keep the elements and their order, not the slots or the handles.
-/
namespace GroupChat.SlotList

variable {α : Type} {collation : Collation α}

def first? (list : SlotList collation) : Option α :=
  (list.head.bind list.nodeAt?).map Node.element

def last? (list : SlotList collation) : Option α :=
  (list.tail.bind list.nodeAt?).map Node.element

def get? (list : SlotList collation) (position : Nat) : Option α := list.elements[position]?

def handleAt? (list : SlotList collation) (position : Nat) : Option Handle :=
  list.handles[position]?

def positionOf? (list : SlotList collation) (handle : Handle) : Option Nat :=
  list.handles.idxOf? handle

def element? (list : SlotList collation) (handle : Handle) : Option α :=
  (list.node? handle).map Node.element

def locate? (list : SlotList collation) (target : α) : Option Handle :=
  (list.entries.find? fun (_, element) => collation.compare target element = .eq).map Prod.fst

def rank? (list : SlotList collation) (target : α) : Option Nat :=
  list.elements.findIdx? fun element => collation.compare target element = .eq

def findIdx? (list : SlotList collation) (chosen : α → Bool) : Option Nat :=
  list.elements.findIdx? chosen

def modifyAt? (list : SlotList collation) (position : Nat) (change : α → α) :
    Option (SlotList collation) :=
  (list.handleAt? position).bind fun handle => list.modify? handle change

def printAll (list : SlotList collation) : String :=
  String.join (list.elements.map collation.print)

def text (list : SlotList collation) (elementText : α → String) : String :=
  "[" ++ ", ".intercalate (list.elements.map elementText) ++ "]"

def copy (list : SlotList collation) : SlotList collation := ofElements list.elements

/-- Lists are equal when their elements are, whatever slots hold them. -/
instance [BEq α] : BEq (SlotList collation) where
  beq a b := a.size == b.size && a.elements == b.elements

/-- A place on the way through a list, with the number of elements still to come. -/
structure Iterator where
  cursor : Option Nat
  remaining : Nat

def iterator (list : SlotList collation) : Iterator := ⟨list.head, list.size⟩

def next? (list : SlotList collation) (iterator : Iterator) : Option (α × Iterator) := do
  let index ← iterator.cursor
  let node ← list.nodeAt? index
  return (node.element, ⟨node.next, iterator.remaining - 1⟩)

def countdown (list : SlotList collation) : (steps : Nat) → Iterator → List Nat
  | 0, iterator => [iterator.remaining]
  | steps + 1, iterator =>
    iterator.remaining ::
      match list.next? iterator with
      | some (_, iterator) => list.countdown steps iterator
      | none => []

def sizeHints (list : SlotList collation) : List Nat :=
  list.countdown list.slots.size list.iterator

end GroupChat.SlotList

import GroupChat.Proofs.SlotList.Threads

/-!
The operations with nothing known about the slots beforehand. Every link is followed as it stands: one
that leads to no node is a fault, and so is counting down from zero. A loop along the links is a fault
if it has not come to its end after as many steps as there are slots. Faults are `none` here. On a
list that is made by operations there are none, and each operation does what it does with its links
known to be sound.
-/
namespace GroupChat.SlotList

variable {α : Type} {collation : Collation α}

namespace Exposed

def handleOf (list : SlotList collation) (index : Nat) : Option Handle :=
  list.slots[index]?.map fun slot => ⟨index, slot.generation⟩

def modifyNode (list : SlotList collation) (index : Nat) (change : Node α → Node α) :
    Option (SlotList collation) :=
  (list.nodeAt? index).map fun _ => list.modifyNode index change

def linkNext (list : SlotList collation) (previous next : Option Nat) :
    Option (SlotList collation) :=
  match previous with
  | some index => modifyNode list index fun node => { node with next }
  | none => some { list with head := next }

def linkPrevious (list : SlotList collation) (next previous : Option Nat) :
    Option (SlotList collation) :=
  match next with
  | some index => modifyNode list index fun node => { node with previous }
  | none => some { list with tail := previous }

/-- A new slot makes sure that there will be room for it, and for all others, among the free ones. -/
def store (list : SlotList collation) (node : Node α) : Option (Nat × SlotList collation) := do
  match list.free with
  | index :: _ => guard (index < list.slots.size)
  | [] => guard (list.free.length ≤ list.slots.size + 1)
  return list.store node

def slotBefore (list : SlotList collation) (next : Option Nat) : Option (Option Nat) :=
  match next with
  | some index => (list.nodeAt? index).map Node.previous
  | none => some list.tail

def splice (list : SlotList collation) (node : Node α) : Option (Nat × SlotList collation) := do
  let (index, list) ← store list node
  let list ← linkNext list node.previous (some index)
  let list ← linkPrevious list node.next (some index)
  return (index, { list with size := list.size + 1 })

def insertBefore (list : SlotList collation) (element : α) (next : Option Nat) :
    Option (Handle × SlotList collation) := do
  let previous ← slotBefore list next
  let (index, list) ← splice list ⟨element, previous, next⟩
  let handle ← handleOf list index
  return (handle, list)

def search (list : SlotList collation) (stops : α → Bool) :
    (steps : Nat) → (cursor : Option Nat) → Option (Option Nat)
  | _, none => some none
  | 0, some _ => none
  | steps + 1, some index => do
    let node ← list.nodeAt? index
    if stops node.element then return some index else search list stops steps node.next

def insert (list : SlotList collation) (element : α) : Option (Handle × SlotList collation) := do
  let next ← search list (fun other => collation.compare element other = .lt) list.slots.size
    list.head
  insertBefore list element next

def pushBack (list : SlotList collation) (element : α) : Option (Handle × SlotList collation) :=
  insertBefore list element none

def pushFront (list : SlotList collation) (element : α) : Option (Handle × SlotList collation) :=
  insertBefore list element list.head

def pushAll (list : SlotList collation) (elements : List α) : Option (SlotList collation) :=
  elements.foldlM (fun list element => (pushBack list element).map Prod.snd) list

def cut (list : SlotList collation) (index : Nat) (node : Node α) :
    Option (SlotList collation) := do
  guard (0 < list.size)
  let list ← linkNext (list.release index) node.previous node.next
  linkPrevious list node.next node.previous

def erase (list : SlotList collation) (handle : Handle) : Option (Option α × SlotList collation) :=
  -- Whatever a handle names, looking it up is no fault: it is held against its slot first.
  match list.node? handle with
  | some node => (cut list handle.index node).map fun list => (some node.element, list)
  | none => some (none, list)

def discard (list : SlotList collation) (handle : Handle) :
    Option (List α × SlotList collation) := do
  let (element, list) ← erase list handle
  return (element.toList, list)

def discardFirst (list : SlotList collation) :
    (steps : Nat) → Option (List α × SlotList collation)
  | 0 => if list.head.isNone then some ([], list) else none
  | steps + 1 =>
    match list.head with
    | none => some ([], list)
    | some index => do
      let handle ← handleOf list index
      let (gone, list) ← discard list handle
      let (others, list) ← discardFirst list steps
      return (gone ++ others, list)

def clear (list : SlotList collation) : Option (List α × SlotList collation) :=
  discardFirst list list.slots.size

/-! ### Traversals -/

def next (list : SlotList collation) (iterator : Iterator) : Option (Option (α × Iterator)) :=
  match iterator.cursor with
  | none => some none
  | some index => do
    let node ← list.nodeAt? index
    guard (0 < iterator.remaining)
    return some (node.element, ⟨node.next, iterator.remaining - 1⟩)

def collect (list : SlotList collation) : (steps : Nat) → Iterator → Option (List α)
  | 0, iterator => do
    match ← next list iterator with
    | none => return []
    | some _ => none
  | steps + 1, iterator => do
    match ← next list iterator with
    | none => return []
    | some (element, further) =>
      let others ← collect list steps further
      return element :: others

def elements (list : SlotList collation) : Option (List α) :=
  collect list list.slots.size list.iterator

def handlesFrom (list : SlotList collation) :
    (steps : Nat) → (cursor : Option Nat) → Option (List Handle)
  | _, none => some []
  | 0, some _ => none
  | steps + 1, some index => do
    let node ← list.nodeAt? index
    let handle ← handleOf list index
    let others ← handlesFrom list steps node.next
    return handle :: others

def handles (list : SlotList collation) : Option (List Handle) :=
  handlesFrom list list.slots.size list.head

def first (list : SlotList collation) : Option (Option α) :=
  match list.head with
  | some index => (list.nodeAt? index).map fun node => some node.element
  | none => some none

def last (list : SlotList collation) : Option (Option α) :=
  match list.tail with
  | some index => (list.nodeAt? index).map fun node => some node.element
  | none => some none

def locate (list : SlotList collation) (target : α) : Option (Option Handle) := do
  let handles ← handles list
  handles.findM? fun handle =>
    (list.nodeAt? handle.index).map fun node => collation.compare target node.element = .eq

/-! ### Runs -/

def modifyAt (list : SlotList collation) (position : Nat) (change : α → α) :
    Option (Option (SlotList collation)) := do
  let handles ← handles list
  return handles[position]?.bind fun handle => list.modify? handle change

def copy (list : SlotList collation) : Option (SlotList collation) := do
  let elements ← elements list
  pushAll empty elements

def perform (list : SlotList collation) : Operation α → Option (Answer α × SlotList collation)
  | .insert element => (insert list element).map fun (handle, list) => (.handle handle, list)
  | .pushBack element => (pushBack list element).map fun (handle, list) => (.handle handle, list)
  | .pushFront element => (pushFront list element).map fun (handle, list) => (.handle handle, list)
  | .pushAll elements => (pushAll list elements).map fun list => (.done, list)
  | .erase handle => (erase list handle).map fun (element, list) => (.taken element, list)
  | .discard handle => (discard list handle).map fun (gone, list) => (.gone gone, list)
  | .clear => (clear list).map fun (gone, list) => (.gone gone, list)
  | .modify handle change =>
    match list.modify? handle change with
    | some changed => some (.found true, changed)
    | none => some (.found false, list)
  | .modifyAt position change => do
    match ← modifyAt list position change with
    | some changed => return (.found true, changed)
    | none => return (.found false, list)
  | .copy => (copy list).map fun list => (.done, list)

def performAll (list : SlotList collation) :
    List (Operation α) → Option (List (Answer α) × SlotList collation)
  | [] => some ([], list)
  | operation :: operations => do
    let (answer, list) ← perform list operation
    let (answers, list) ← performAll list operations
    return (answer :: answers, list)

variable {list : SlotList collation} {chain front back : List (Nat × α)}

/-! ### Links -/

theorem handleOf_eq {index : Nat} {node : Node α} (occupied : list.nodeAt? index = some node) :
    handleOf list index = some (list.handleOf index) := by
  obtain ⟨slot, found, _⟩ := Option.bind_eq_some_iff.mp occupied
  rw [handleOf, SlotList.handleOf, found]
  rfl

theorem modifyNode_eq {index : Nat} (occupied : (list.nodeAt? index).isSome)
    (change : Node α → Node α) :
    modifyNode list index change = some (list.modifyNode index change) := by
  obtain ⟨node, found⟩ := Option.isSome_iff_exists.mp occupied
  rw [modifyNode, found, Option.map_some]

theorem linkNext_eq {previous : Option Nat}
    (occupied : ∀ index ∈ previous, (list.nodeAt? index).isSome) (next : Option Nat) :
    linkNext list previous next = some (list.linkNext previous next) := by
  cases previous with
  | none => rfl
  | some index => exact modifyNode_eq (occupied index rfl) _

theorem linkPrevious_eq {next : Option Nat}
    (occupied : ∀ index ∈ next, (list.nodeAt? index).isSome) (previous : Option Nat) :
    linkPrevious list next previous = some (list.linkPrevious next previous) := by
  cases next with
  | none => rfl
  | some index => exact modifyNode_eq (occupied index rfl) _

theorem isSome_linkNext (list : SlotList collation) (previous next : Option Nat) (index : Nat) :
    ((list.linkNext previous next).nodeAt? index).isSome = (list.nodeAt? index).isSome := by
  rw [nodeAt?_linkNext]
  split
  · exact Option.isSome_map
  · rfl

theorem store_eq (tracks : list.TracksFree) (node : Node α) :
    store list node = some (list.store node) := by
  unfold store
  split
  · rename_i index others top
    have inside := ((tracks.mem_iff index).mp (top ▸ List.mem_cons_self)).1
    simp [inside]
  · rename_i none
    simp [none]

theorem slotBefore_eq {next : Option Nat}
    (occupied : ∀ index ∈ next, (list.nodeAt? index).isSome) :
    slotBefore list next = some (list.slotBefore next) := by
  cases next with
  | none => rfl
  | some index =>
    obtain ⟨node, found⟩ := Option.isSome_iff_exists.mp (occupied index rfl)
    rw [slotBefore, SlotList.slotBefore, found]
    rfl

theorem splice_eq (tracks : list.TracksFree) {node : Node α}
    (preceding : ∀ index ∈ node.previous, (list.nodeAt? index).isSome)
    (following : ∀ index ∈ node.next, (list.nodeAt? index).isSome) :
    splice list node = some ((list.store node).1, list.splice node) := by
  let stored := (list.store node).2
  have stays (index : Nat) (occupied : (list.nodeAt? index).isSome) :
      (stored.nodeAt? index).isSome := by
    rw [tracks.nodeAt?_store]
    split
    · rfl
    · exact occupied
  let linked := stored.linkNext node.previous (some (list.store node).1)
  have forward : linkNext stored node.previous (some (list.store node).1) = some linked :=
    linkNext_eq (fun index before => stays index (preceding index before)) _
  have backward : linkPrevious linked node.next (some (list.store node).1) =
      some (linked.linkPrevious node.next (some (list.store node).1)) := by
    refine linkPrevious_eq (fun index after => ?_) _
    rw [isSome_linkNext]
    exact stays index (following index after)
  simp only [splice, store_eq tracks, Option.bind_eq_bind, Option.bind_some]
  rw [forward, Option.bind_some, backward]
  rfl

theorem handleOf_splice (tracks : list.TracksFree) (node : Node α) :
    handleOf (list.splice node) (list.store node).1 =
      some ((list.splice node).handleOf (list.store node).1) := by
  have fresh := tracks.nodeAt?_splice node (list.store node).1
  rw [if_pos rfl, Option.map_some] at fresh
  exact handleOf_eq fresh

/-! ### Operations -/

theorem insertBefore_eq (represents : list.Represents (front ++ back)) (element : α) :
    insertBefore list element (firstSlot back) =
      some (list.insertBefore element (firstSlot back)) := by
  have occupied (index : Nat) (member : index ∈ (front ++ back).map Prod.fst) :
      (list.nodeAt? index).isSome := (represents.mem_iff index).mp member
  rw [List.map_append] at occupied
  have following (index : Nat) (first : index ∈ firstSlot back) :
      (list.nodeAt? index).isSome :=
    occupied index (List.mem_append_right _ (mem_of_firstSlot first))
  have preceding (index : Nat) (last : index ∈ list.slotBefore (firstSlot back)) :
      (list.nodeAt? index).isSome := by
    rw [represents.slotBefore_firstSlot] at last
    exact occupied index (List.mem_append_left _ (mem_of_lastSlot last))
  have spliced : splice list ⟨element, list.slotBefore (firstSlot back), firstSlot back⟩ = some _ :=
    splice_eq represents.free preceding following
  simp only [insertBefore, slotBefore_eq following, spliced, handleOf_splice represents.free,
    Option.bind_eq_bind, Option.bind_some]
  rfl

theorem search_eq (leads : list.LeadsAlong chain) (stops : α → Bool) {steps : Nat}
    (enough : chain.length ≤ steps) :
    search list stops steps (firstSlot chain) =
      some (firstSlot (chain.dropWhile fun entry => !stops entry.2)) := by
  induction leads generalizing steps with
  | nil =>
    rw [firstSlot_nil, search]
    rfl
  | @cons index element previous rest node _ ih =>
    cases steps with
    | zero => contradiction
    | succ steps =>
      have others := ih (Nat.le_of_succ_le_succ enough)
      simp only [firstSlot_cons, search, node, others, Option.bind_eq_bind, Option.bind_some]
      cases here : stops element <;> simp [here]

theorem insert_eq (linked : list.IsLinked) (element : α) :
    insert list element = some (list.insert element) := by
  obtain ⟨chain, represents⟩ := linked
  have found := search_eq represents.leadsAlong
    (fun other => collation.compare element other = .lt) represents.length_le
  have whole := List.takeWhile_append_dropWhile (p := Represents.stays collation element) (l := chain)
  have behind : (fun entry : Nat × α => !decide (collation.compare element entry.2 = .lt)) =
      Represents.stays collation element := by
    funext entry
    exact decide_not.symm
  rw [behind] at found
  rw [insert, represents.head, found, Option.bind_eq_bind, Option.bind_some, represents.insert_eq]
  rw [← whole] at represents
  exact insertBefore_eq represents element

theorem pushBack_eq (linked : list.IsLinked) (element : α) :
    pushBack list element = some (list.pushBack element) := by
  obtain ⟨chain, represents⟩ := linked
  rw [← List.append_nil chain] at represents
  exact insertBefore_eq represents element

theorem pushFront_eq (linked : list.IsLinked) (element : α) :
    pushFront list element = some (list.pushFront element) := by
  obtain ⟨chain, represents⟩ := linked
  rw [pushFront, SlotList.pushFront, represents.head]
  rw [← List.nil_append chain] at represents
  exact insertBefore_eq represents element

theorem pushAll_eq (linked : list.IsLinked) (elements : List α) :
    pushAll list elements = some (list.pushAll elements) := by
  induction elements generalizing list with
  | nil => rfl
  | cons element elements ih =>
    have others := ih (linked.pushBack element)
    rw [pushAll, List.foldlM_cons, pushBack_eq linked, Option.map_some, Option.bind_eq_bind,
      Option.bind_some, pushAll_cons, ← others]
    rfl

theorem cut_eq {index : Nat} {element : α}
    (represents : list.Represents (front ++ (index, element) :: back)) :
    cut list index ⟨element, lastSlot front, firstSlot back⟩ =
      some (list.cut index ⟨element, lastSlot front, firstSlot back⟩) := by
  have positive : 0 < list.size := by
    rw [represents.size, List.length_append]
    exact Nat.add_pos_right _ (Nat.succ_pos _)
  obtain ⟨outsideFront, outsideBack⟩ := represents.not_mem_around rfl
  have stays (other : Nat) (distinct : index ≠ other)
      (member : other ∈ (front ++ (index, element) :: back).map Prod.fst) :
      ((list.release index).nodeAt? other).isSome := by
    rw [nodeAt?_release, if_neg distinct]
    exact (represents.mem_iff other).mp member
  rw [List.map_append, List.map_cons] at stays
  let linked := (list.release index).linkNext (lastSlot front) (firstSlot back)
  have forward : linkNext (list.release index) (lastSlot front) (firstSlot back) = some linked := by
    refine linkNext_eq (fun other last => ?_) _
    have member := mem_of_lastSlot last
    exact stays other (fun same => outsideFront (same ▸ member)) (List.mem_append_left _ member)
  have backward : linkPrevious linked (firstSlot back) (lastSlot front) =
      some (linked.linkPrevious (firstSlot back) (lastSlot front)) := by
    refine linkPrevious_eq (fun other first => ?_) _
    have member := mem_of_firstSlot first
    rw [isSome_linkNext]
    exact stays other (fun same => outsideBack (same ▸ member))
      (List.mem_append_right _ (List.mem_cons_of_mem _ member))
  have allowed : (guard (0 < list.size) : Option Unit) = some () := if_pos positive
  simp only [cut, allowed, forward, backward, Option.bind_eq_bind, Option.bind_some]
  rfl

theorem erase_eq (linked : list.IsLinked) (handle : Handle) :
    erase list handle = some (list.erase handle) := by
  obtain ⟨chain, represents⟩ := linked
  cases live : list.node? handle with
  | none => simp only [erase, SlotList.erase, live]
  | some node =>
    have occupied := nodeAt?_of_node? live
    obtain ⟨⟨_, element⟩, present, rfl⟩ := List.mem_map.mp (represents.covers occupied)
    obtain ⟨front, back, rfl⟩ := List.append_of_mem present
    rw [represents.node rfl, Option.some.injEq] at occupied
    rw [erase_of_node? live]
    simp only [erase, live, ← occupied, cut_eq represents, Option.map_some]

theorem discard_eq (linked : list.IsLinked) (handle : Handle) :
    discard list handle = some (list.discard handle) := by
  rw [discard, erase_eq linked, Option.bind_eq_bind, Option.bind_some]
  rfl

theorem discardFirst_eq (linked : list.IsLinked) {steps : Nat}
    (enough : list.entries.length ≤ steps) :
    discardFirst list steps = some (list.discardFirst steps) := by
  induction steps generalizing list with
  | zero =>
    obtain ⟨none, _⟩ | ⟨_, _, _, _, _, first⟩ := linked.head_cases
    · rw [discardFirst, none, Option.isNone_none, if_pos rfl]
      rfl
    · simp [first] at enough
  | succ steps ih =>
    rw [discardFirst, SlotList.discardFirst]
    obtain ⟨none, _⟩ | ⟨index, node, rest, begins, occupied, first⟩ := linked.head_cases
    · simp only [none]
    · obtain ⟨_, left⟩ := linked.entries_erase_head first
      rw [first, List.length_cons, Nat.succ_le_succ_iff, ← left] at enough
      simp only [begins, handleOf_eq occupied, discard_eq linked, SlotList.discard_eq,
        Option.bind_eq_bind, Option.bind_some, ih (linked.erase _) enough]
      rfl

theorem clear_eq (linked : list.IsLinked) : clear list = some list.clear :=
  discardFirst_eq linked linked.length_entries_le

/-! ### Traversals -/

theorem collect_eq (leads : list.LeadsAlong chain) {steps : Nat}
    (enough : chain.length ≤ steps) :
    collect list steps ⟨firstSlot chain, chain.length⟩ = some (chain.map Prod.snd) := by
  induction leads generalizing steps with
  | nil => cases steps <;> rfl
  | @cons index element previous rest node _ ih =>
    have stepped : next list ⟨some index, rest.length + 1⟩ =
        some (some (element, ⟨firstSlot rest, rest.length⟩)) := by
      simp only [next, node]
      rfl
    cases steps with
    | zero => contradiction
    | succ steps =>
      simp only [firstSlot_cons, List.length_cons, collect, stepped,
        ih (Nat.le_of_succ_le_succ enough), Option.bind_eq_bind, Option.bind_some]
      rfl

theorem handlesFrom_eq (leads : list.LeadsAlong chain) {steps : Nat}
    (enough : chain.length ≤ steps) :
    handlesFrom list steps (firstSlot chain) =
      some (chain.map fun entry => list.handleOf entry.1) := by
  induction leads generalizing steps with
  | nil =>
    rw [firstSlot_nil, handlesFrom]
    rfl
  | cons node _ ih =>
    cases steps with
    | zero => contradiction
    | succ steps =>
      simp only [firstSlot_cons, handlesFrom, node, handleOf_eq node,
        ih (Nat.le_of_succ_le_succ enough), Option.bind_eq_bind, Option.bind_some]
      rfl

theorem elements_eq (linked : list.IsLinked) : elements list = some list.elements := by
  obtain ⟨chain, represents⟩ := linked
  rw [elements, iterator, represents.head, represents.size, represents.elements_eq]
  exact collect_eq represents.leadsAlong represents.length_le

/-- A node that links to itself is never left behind. -/
example : elements (⟨#[⟨0, some ⟨7, some 0, some 0⟩⟩], [], some 0, some 0, 1⟩ :
    SlotList (Collation.ofOrd fun n : Nat => toString n)) = none := rfl

theorem handles_eq (linked : list.IsLinked) : handles list = some list.handles := by
  obtain ⟨chain, represents⟩ := linked
  rw [handles, represents.head, handlesFrom_eq represents.leadsAlong represents.length_le,
    SlotList.handles, represents.entries_label, List.map_map]
  rfl

theorem first_eq (linked : list.IsLinked) : first list = some list.first? := by
  obtain ⟨none, _⟩ | ⟨_, _, _, begins, occupied, _⟩ := linked.head_cases
  · simp [first, first?, none]
  · simp [first, first?, begins, occupied]

theorem last_eq (linked : list.IsLinked) : last list = some list.last? := by
  obtain ⟨chain, represents⟩ := linked
  cases ends : list.tail with
  | none => simp [last, last?, ends]
  | some index =>
    have member := mem_of_lastSlot (represents.tail.symm.trans ends)
    obtain ⟨node, occupied⟩ := represents.exists_node member
    simp [last, last?, ends, occupied]

theorem findM?_eq {chooses : Handle → Option Bool} (chosen : α → Bool)
    {entries : List (Handle × α)}
    (known : ∀ entry ∈ entries, chooses entry.1 = some (chosen entry.2)) :
    (entries.map Prod.fst).findM? chooses =
      some ((entries.find? fun entry => chosen entry.2).map Prod.fst) := by
  induction entries with
  | nil => rfl
  | cons entry rest ih =>
    have others := ih fun other member => known other (List.mem_cons_of_mem _ member)
    rw [List.map_cons, List.findM?, known entry List.mem_cons_self, List.find?_cons]
    cases chosen entry.2 with
    | true => rfl
    | false => exact others

theorem locate_eq (linked : list.IsLinked) (target : α) :
    locate list target = some (list.locate? target) := by
  rw [locate, handles_eq linked, Option.bind_eq_bind, Option.bind_some]
  refine findM?_eq (fun element => collation.compare target element = .eq) fun entry member => ?_
  obtain ⟨front, back, split⟩ := List.append_of_mem member
  obtain ⟨node, live, same⟩ := linked.exists_node? split
  rw [nodeAt?_of_node? live, Option.map_some, same]

/-! ### Runs -/

theorem modifyAt_eq (linked : list.IsLinked) (position : Nat) (change : α → α) :
    modifyAt list position change = some (list.modifyAt? position change) := by
  rw [modifyAt, handles_eq linked, Option.bind_eq_bind, Option.bind_some]
  rfl

theorem copy_eq (linked : list.IsLinked) : copy list = some list.copy := by
  rw [copy, elements_eq linked, Option.bind_eq_bind, Option.bind_some]
  exact pushAll_eq IsLinked.empty list.elements

theorem perform_eq (linked : list.IsLinked) (operation : Operation α) :
    perform list operation = some (list.perform operation) := by
  cases operation with
  | insert element => rw [perform, insert_eq linked, Option.map_some, SlotList.perform]
  | pushBack element => rw [perform, pushBack_eq linked, Option.map_some, SlotList.perform]
  | pushFront element => rw [perform, pushFront_eq linked, Option.map_some, SlotList.perform]
  | pushAll elements => rw [perform, pushAll_eq linked, Option.map_some, SlotList.perform]
  | erase handle => rw [perform, erase_eq linked, Option.map_some, SlotList.perform]
  | discard handle => rw [perform, discard_eq linked, Option.map_some, SlotList.perform]
  | clear => rw [perform, clear_eq linked, Option.map_some, SlotList.perform]
  | modify handle change =>
    rw [perform, SlotList.perform]
    cases list.modify? handle change <;> rfl
  | modifyAt position change =>
    rw [perform, modifyAt_eq linked, Option.bind_eq_bind, Option.bind_some, SlotList.perform]
    cases list.modifyAt? position change <;> rfl
  | copy => rw [perform, copy_eq linked, Option.map_some, SlotList.perform]

theorem performAll_eq (linked : list.IsLinked) (operations : List (Operation α)) :
    performAll list operations = some (list.performAll operations) := by
  induction operations generalizing list with
  | nil => rfl
  | cons operation operations ih =>
    simp only [performAll, perform_eq linked, ih (linked.perform operation), Option.bind_eq_bind,
      Option.bind_some]
    rfl

end Exposed

/-- Whatever is done to a list, with whatever order and handles: two threads run through its
occupied slots, all others are free, and no link that was followed, or is followed to see what is in
the list, was a fault or went on for ever. -/
theorem threaded_without_faults (operations : List (Operation α)) :
    let made := (empty : SlotList collation).performAll operations
    (∃ visited, made.2.Threads visited) ∧
      Exposed.performAll (empty : SlotList collation) operations = some made ∧
      Exposed.elements made.2 = some made.2.elements ∧
      Exposed.handles made.2 = some made.2.handles ∧
      Exposed.first made.2 = some made.2.first? ∧ Exposed.last made.2 = some made.2.last? ∧
      ∀ target, Exposed.locate made.2 target = some (made.2.locate? target) := by
  intro made
  have linked : made.2.IsLinked := IsLinked.empty.performAll operations
  exact ⟨linked.exists_threads, Exposed.performAll_eq IsLinked.empty operations,
    Exposed.elements_eq linked, Exposed.handles_eq linked, Exposed.first_eq linked,
    Exposed.last_eq linked, Exposed.locate_eq linked⟩

end GroupChat.SlotList

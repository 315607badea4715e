import GroupChat.Proofs.SlotList.Sequence
import GroupChat.Proofs.SlotList.Threads

/-!
Every list that is made by operations refines a sequence: the operations do to the list what they do
to the sequence, and all that can be asked of the list is answered from the sequence.
-/
namespace GroupChat.SlotList

variable {α : Type} {collation : Collation α} {list other : SlotList collation}
variable {sequence : Sequence α} {handle : Handle}

/-! ### Operations -/

theorem place_cases (sequence : Sequence α) (handle : Handle) :
    (∃ front element back, sequence = front ++ (handle, element) :: back) ∨
      handle ∉ sequence.map Prod.fst := by
  by_cases present : handle ∈ sequence.map Prod.fst
  · obtain ⟨⟨_, element⟩, member, rfl⟩ := List.mem_map.mp present
    obtain ⟨front, back, split⟩ := List.append_of_mem member
    exact .inl ⟨front, element, back, split⟩
  · exact .inr present

theorem fresh_of_nodup {front back : Sequence α} {element : α}
    (nodup : ((front ++ (handle, element) :: back).map Prod.fst).Nodup) :
    handle ∉ (front ++ back).map Prod.fst := by
  rw [List.map_append, List.map_cons, List.nodup_middle, List.nodup_cons,
    ← List.map_append] at nodup
  exact nodup.1

namespace IsLinked

theorem exists_insert (linked : list.IsLinked) (element : α) :
    ∃ front back, list.entries = front ++ back ∧
      (list.insert element).2.entries = front ++ ((list.insert element).1, element) :: back ∧
      (∀ entry ∈ front, collation.compare element entry.2 ≠ .lt) ∧
      ∀ entry ∈ back.head?, collation.compare element entry.2 = .lt := by
  refine ⟨_, _, List.takeWhile_append_dropWhile.symm, linked.entries_insert element, ?_, ?_⟩
  · intro entry member
    simpa using List.mem_takeWhile_imp member
  · intro entry first
    have stops := List.head?_dropWhile_not
      (fun entry : Handle × α => ¬ collation.compare element entry.2 = .lt) list.entries
    rw [Option.mem_def.mp first] at stops
    simpa using stops

/-- One operation does to the sequence of a list what it does to the list, with the same answer. -/
theorem step (linked : list.IsLinked) (operation : Operation α) :
    Sequence.Step collation list.entries operation (list.perform operation).1
      (list.perform operation).2.entries := by
  have nodup := (linked.perform operation).handles_nodup
  cases operation with
  | insert element =>
    obtain ⟨front, back, before, after, behind, first⟩ := linked.exists_insert element
    simp only [SlotList.perform, before, after] at nodup ⊢
    exact .insert behind first (fresh_of_nodup nodup)
  | pushBack element =>
    simp only [SlotList.perform, linked.entries_pushBack] at nodup ⊢
    have fresh := fresh_of_nodup nodup
    rw [List.append_nil] at fresh
    exact .pushBack fresh
  | pushFront element =>
    simp only [SlotList.perform, linked.entries_pushFront] at nodup ⊢
    exact .pushFront (List.nodup_cons.mp nodup).1
  | pushAll elements =>
    obtain ⟨added, rfl, entries⟩ := linked.entries_pushAll elements
    simp only [SlotList.perform, entries] at nodup ⊢
    exact .pushAll nodup
  | erase handle =>
    obtain ⟨front, element, back, split⟩ | absent := place_cases list.entries handle
    · obtain ⟨taken, left⟩ := linked.erase_eq split
      simp only [SlotList.perform, taken, left, split]
      exact .erase
    · simp only [SlotList.perform, linked.erase_of_absent absent]
      exact .erase_absent absent
  | discard handle =>
    obtain ⟨front, element, back, split⟩ | absent := place_cases list.entries handle
    · obtain ⟨taken, left⟩ := linked.erase_eq split
      simp only [SlotList.perform, discard_eq, taken, left, split]
      exact .discard
    · simp only [SlotList.perform, discard_eq, linked.erase_of_absent absent]
      exact .discard_absent absent
  | clear =>
    obtain ⟨gone, _, nothing⟩ := linked.clear_eq
    simp only [SlotList.perform, gone, nothing]
    exact .clear
  | modify handle change =>
    obtain ⟨front, element, back, split⟩ | absent := place_cases list.entries handle
    · obtain ⟨changed, found, entries⟩ := linked.modify?_eq split change
      simp only [SlotList.perform, found, entries, split]
      exact .modify
    · simp only [SlotList.perform, linked.modify?_of_absent absent]
      exact .modify_absent absent
  | modifyAt position change =>
    cases found : list.entries[position]? with
    | none =>
      rw [List.getElem?_eq_none_iff] at found
      simp only [SlotList.perform, modifyAt?_of_le found]
      exact .modifyAt_outside found
    | some entry =>
      obtain ⟨front, back, split, rfl⟩ := getElem?_split found
      obtain ⟨changed, found, entries⟩ := linked.modify?_eq split change
      simp only [SlotList.perform, modifyAt?_eq split, found, entries, split]
      exact .modifyAt
  | copy => exact .copy (entries_copy list) nodup

theorem run (linked : list.IsLinked) (operations : List (Operation α)) :
    Sequence.Run collation list.entries operations (list.performAll operations).1
      (list.performAll operations).2.entries := by
  induction operations generalizing list with
  | nil => exact .nil
  | cons operation operations ih =>
    exact .cons (linked.step operation) (ih (linked.perform operation))

end IsLinked

/-! ### Queries -/

/-- The elements that an iterator comes to, with the right number of elements still to come at each
of them and at the end. -/
inductive Yields (list : SlotList collation) : Iterator → List α → Prop
  | done {iterator : Iterator} (ends : list.next? iterator = none)
      (nothing : iterator.remaining = 0) : Yields list iterator []
  | step {iterator further : Iterator} {element : α} {others : List α}
      (next : list.next? iterator = some (element, further))
      (more : iterator.remaining = others.length + 1) (yields : Yields list further others) :
      Yields list iterator (element :: others)

/-- What is in a list is what stands in a sequence, however it is looked for. -/
structure Shows (list : SlotList collation) (sequence : Sequence α) : Prop where
  size : list.size = sequence.length
  isEmpty : list.isEmpty = sequence.isEmpty
  first : list.first? = sequence.head?.map Prod.snd
  last : list.last? = sequence.getLast?.map Prod.snd
  iterator : list.Yields list.iterator (sequence.map Prod.snd)
  get (position : Nat) : list.get? position = sequence[position]?.map Prod.snd
  handleAt (position : Nat) : list.handleAt? position = sequence[position]?.map Prod.fst
  positionOf (handle : Handle) :
    list.positionOf? handle = sequence.findIdx? fun entry => entry.1 = handle
  element (handle : Handle) : list.element? handle = sequence.lookup handle
  locate (target : α) : list.locate? target =
    (sequence.find? fun entry => collation.compare target entry.2 = .eq).map Prod.fst
  rank (target : α) :
    list.rank? target = sequence.findIdx? fun entry => collation.compare target entry.2 = .eq
  findIdx (chosen : α → Bool) :
    list.findIdx? chosen = sequence.findIdx? fun entry => chosen entry.2
  printAll : list.printAll = String.join (sequence.map fun entry => collation.print entry.2)
  copy : list.copy.entries.map Prod.snd = sequence.map Prod.snd

theorem LeadsAlong.yields {chain : List (Nat × α)} (leads : list.LeadsAlong chain) :
    list.Yields ⟨firstSlot chain, chain.length⟩ (chain.map Prod.snd) := by
  induction leads with
  | nil => exact .done rfl rfl
  | cons node _ ih =>
    refine .step ?_ (congrArg Nat.succ (List.length_map _).symm) ih
    rw [next?, firstSlot_cons, Option.bind_eq_bind, Option.bind_some, node]
    rfl

theorem Represents.last?_eq {chain : List (Nat × α)} (represents : list.Represents chain) :
    list.last? = chain.getLast?.map Prod.snd := by
  rw [last?, represents.tail, lastSlot]
  cases last : chain.getLast? with
  | none => rfl
  | some entry =>
    obtain ⟨front, split⟩ := List.getLast?_eq_some_iff.mp last
    rw [Option.map_some, Option.bind_some, represents.node split]
    rfl

namespace IsLinked

variable (linked : list.IsLinked)
include linked

theorem yields : list.Yields list.iterator list.elements := by
  obtain ⟨chain, represents⟩ := linked
  rw [iterator, represents.head, represents.size, represents.elements_eq]
  exact represents.leadsAlong.yields

theorem first?_eq : list.first? = list.entries.head?.map Prod.snd := by
  obtain ⟨none, nothing⟩ | ⟨_, _, _, begins, occupied, first⟩ := linked.head_cases
  · simp only [first?, none, nothing, Option.bind_none, List.head?_nil, Option.map_none]
  · simp only [first?, begins, occupied, first, Option.bind_some, List.head?_cons, Option.map_some]

theorem last?_eq : list.last? = list.entries.getLast?.map Prod.snd := by
  obtain ⟨chain, represents⟩ := linked
  rw [represents.last?_eq, represents.entries_label, List.getLast?_map, Option.map_map]
  rfl

theorem element?_eq (handle : Handle) : list.element? handle = list.entries.lookup handle := by
  obtain ⟨front, element, back, split⟩ | absent := place_cases list.entries handle
  · obtain ⟨node, live, rfl⟩ := linked.exists_node? split
    have nodup := linked.handles_nodup
    rw [split] at nodup
    have outside := fresh_of_nodup nodup
    rw [element?, live, Option.map_some, eq_comm, List.lookup_eq_some_iff]
    refine ⟨front, back, split, fun entry member => bne_iff_ne.mpr fun same => outside ?_⟩
    rw [same]
    exact List.mem_map_of_mem (List.mem_append_left back member)
  · rw [element?, linked.node?_eq_none absent, Option.map_none, eq_comm, List.lookup_eq_none_iff]
    exact fun entry member => bne_iff_ne.mpr fun same => absent (same ▸ List.mem_map_of_mem member)

theorem element?_eq_some_iff {element : α} :
    list.element? handle = some element ↔ (handle, element) ∈ list.entries := by
  constructor
  · intro found
    rw [linked.element?_eq, List.lookup_eq_some_iff] at found
    obtain ⟨front, back, split, _⟩ := found
    rw [split]
    exact List.mem_append_right front List.mem_cons_self
  · intro member
    obtain ⟨front, back, split⟩ := List.append_of_mem member
    obtain ⟨node, live, rfl⟩ := linked.exists_node? split
    rw [element?, live, Option.map_some]

theorem shows_entries : list.Shows list.entries where
  size := by rw [linked.size_eq, elements, List.length_map]
  isEmpty := by
    rw [isEmpty, linked.size_eq, elements, List.length_map]
    cases list.entries <;> rfl
  first := linked.first?_eq
  last := linked.last?_eq
  iterator := linked.yields
  get _ := List.getElem?_map
  handleAt _ := List.getElem?_map
  positionOf handle := by
    rw [positionOf?, handles, List.idxOf?, List.findIdx?_map]
    rfl
  element := linked.element?_eq
  locate _ := rfl
  rank _ := List.findIdx?_map
  findIdx _ := List.findIdx?_map
  printAll := by
    rw [printAll, elements, List.map_map]
    rfl
  copy := entries_copy list

theorem beq_eq [BEq α] (otherLinked : other.IsLinked) :
    (list == other) = (list.elements == other.elements) := by
  change (list.size == other.size && list.elements == other.elements) = _
  rw [linked.size_eq, otherLinked.size_eq]
  cases same : list.elements == other.elements with
  | false => exact Bool.and_false _
  | true => rw [List.length_eq_of_beq same, beq_self_eq_true, Bool.true_and]

theorem stays_bound {operation : Operation α} {element : α}
    (found : list.element? handle = some element)
    (spared : ¬ Sequence.Affects list.entries handle operation) :
    (list.perform operation).2.element? handle = some element := by
  rw [linked.element?_eq_some_iff] at found
  rw [(linked.perform operation).element?_eq_some_iff]
  exact (linked.step operation).keeps found spared

end IsLinked

/-- Whatever is done to a list, with whatever order and handles, comes to the same for the list and
for a sequence: the answers of the operations, all that is then seen in the list, and which lists
are equal. An element and its handle stay together until something is done to them. -/
theorem refines_sequence [BEq α] (operations others : List (Operation α)) :
    let made := (empty : SlotList collation).performAll operations
    let otherMade := (empty : SlotList collation).performAll others
    ∃ sequence otherSequence : Sequence α,
      Sequence.Run collation [] operations made.1 sequence ∧
      Sequence.Run collation [] others otherMade.1 otherSequence ∧
      (sequence.map Prod.fst).Nodup ∧ made.2.Shows sequence ∧ otherMade.2.Shows otherSequence ∧
      (made.2 == otherMade.2) = (sequence.map Prod.snd == otherSequence.map Prod.snd) ∧
      ∀ operation handle element, made.2.element? handle = some element →
        ¬ sequence.Affects handle operation →
        (made.2.perform operation).2.element? handle = some element := by
  intro made otherMade
  have linked : made.2.IsLinked := IsLinked.empty.performAll operations
  have otherLinked : otherMade.2.IsLinked := IsLinked.empty.performAll others
  refine ⟨made.2.entries, otherMade.2.entries, IsLinked.empty.run operations,
    IsLinked.empty.run others, linked.handles_nodup, linked.shows_entries,
    otherLinked.shows_entries, linked.beq_eq otherLinked, ?_⟩
  intro operation handle element found spared
  exact linked.stays_bound found spared

theorem refines_sequence_reused :
    let list := ((empty : SlotList (Collation.ofOrd fun n : Nat => toString n)).performAll
      [.insert 5, .insert 3, .erase ⟨0, 0⟩]).2
    list.element? ⟨1, 0⟩ = some 3 ∧ (list.perform (.insert 4)).2.handles = [⟨1, 0⟩, ⟨0, 1⟩] ∧
      (list.perform (.insert 4)).2.element? ⟨1, 0⟩ = some 3 := by
  obtain ⟨sequence, _, _, _, _, _, _, _, bound⟩ :=
    @refines_sequence Nat (Collation.ofOrd fun n => toString n) _
      [.insert 5, .insert 3, .erase ⟨0, 0⟩] []
  exact ⟨rfl, rfl, bound (.insert 4) ⟨1, 0⟩ 3 rfl id⟩

end GroupChat.SlotList

import GroupChat.Proofs.RosterOrder
import GroupChat.Proofs.SlotList.Lookups

/-!
What can become of a table: participants are added, taken out by their names, and given other keys
where they stand. What each of these does to the participants in table order.
-/
namespace GroupChat

namespace Roster

variable {roster changed : Roster} {name : String} {position : Nat}

/-! ### Tables in linked lists -/

theorem isLinked_insert (linked : roster.participants.IsLinked) (participant : Participant) :
    (roster.insert participant).2.participants.IsLinked := linked.insert participant

theorem isLinked_erase (linked : roster.participants.IsLinked) (name : String) :
    (roster.erase name).2.participants.IsLinked := by
  unfold erase
  split
  · exact linked.erase _
  · exact linked

theorem isLinked_modify? (linked : roster.participants.IsLinked)
    {change : Participant → Participant}
    (modified : roster.modify? position change = some changed) :
    changed.participants.IsLinked := by
  obtain ⟨participants, found, rfl⟩ := Option.map_eq_some_iff.mp modified
  obtain ⟨handle, _, found⟩ := Option.bind_eq_some_iff.mp found
  exact linked.modify? found

/-! ### Changes -/

inductive Change where
  | insert (participant : Participant)
  | erase (name : String)
  | rekey (position : Nat) (key : Option SigningKey)

def change (roster : Roster) : Change → Roster
  | .insert participant => (roster.insert participant).2
  | .erase name => (roster.erase name).2
  | .rekey position key =>
    (roster.modify? position fun participant => { participant with key }).getD roster

def ofChanges (changes : List Change) : Roster := changes.foldl change .empty

theorem ofChanges_concat (changes : List Change) (change : Change) :
    ofChanges (changes ++ [change]) = (ofChanges changes).change change := by
  simp [ofChanges]

theorem isLinked_change (linked : roster.participants.IsLinked) (change : Change) :
    (roster.change change).participants.IsLinked := by
  cases change with
  | insert participant => exact isLinked_insert linked participant
  | erase name => exact isLinked_erase linked name
  | rekey position key =>
    rw [Roster.change]
    cases modified : roster.modify? position fun participant => { participant with key } with
    | none => exact linked
    | some changed => exact isLinked_modify? linked modified

theorem isLinked_ofChanges (changes : List Change) :
    (ofChanges changes).participants.IsLinked := by
  induction changes using List.reverseRecOn with
  | nil => exact SlotList.IsLinked.empty
  | append_singleton changes change ih =>
    rw [ofChanges_concat]
    exact isLinked_change ih change

/-! ### The participants in table order -/

/-- Whether a participant may stay before another one that is added. -/
def stays (participant other : Participant) : Bool :=
  ¬ Participant.compareNames participant other = .lt

theorem insert_eq (linked : roster.participants.IsLinked) (participant : Participant) :
    (roster.insert participant).1 = some (roster.toList.takeWhile (stays participant)).length ∧
      (roster.insert participant).2.toList =
        roster.toList.takeWhile (stays participant) ++
          participant :: roster.toList.dropWhile (stays participant) := by
  have entries := linked.entries_insert participant
  have position := (linked.insert participant).positionOf?_eq entries
  rw [toList, SlotList.elements, List.takeWhile_map, List.dropWhile_map]
  refine ⟨position.trans ?_, ?_⟩
  · rw [List.length_map]
    rfl
  · have whole : (roster.insert participant).2.toList =
        (roster.participants.insert participant).2.entries.map Prod.snd := rfl
    rw [whole, entries, List.map_append, List.map_cons]
    rfl

theorem erase_of_absent (absent : name ∉ roster.toList.map Participant.name) :
    roster.positionOf? name = none ∧ roster.erase name = (none, roster) := by
  have unknown : roster.positionOf? name = none := by
    refine List.findIdx?_eq_none_iff.mpr fun participant member => decide_eq_false fun same => ?_
    exact absent (same ▸ List.mem_map_of_mem member)
  refine ⟨unknown, ?_⟩
  rw [erase, unknown]
  rfl

theorem erase_eq (linked : roster.participants.IsLinked) {front back : List Participant}
    {participant : Participant} (split : roster.toList = front ++ participant :: back)
    (first : ∀ other ∈ front, other.name ≠ participant.name) :
    roster.positionOf? participant.name = some front.length ∧
      (roster.erase participant.name).1 = some participant ∧
      (roster.erase participant.name).2.toList = front ++ back := by
  have found : roster.positionOf? participant.name = some front.length := by
    have whole : roster.positionOf? participant.name =
        roster.toList.findIdx? fun other => other.name = participant.name := rfl
    rw [whole, split]
    exact SlotList.findIdx?_eq_length (fun other member => decide_eq_false (first other member))
      (decide_eq_true rfl)
  have entries : roster.participants.entries.map Prod.snd = front ++ participant :: back := split
  obtain ⟨before, rest, place, rfl, tail⟩ := List.map_eq_append_iff.mp entries
  obtain ⟨⟨handle, _⟩, after, rfl, rfl, rfl⟩ := List.map_eq_cons_iff.mp tail
  obtain ⟨taken, left⟩ := linked.erase_eq place
  have located : roster.participants.handleAt? (before.map Prod.snd).length = some handle := by
    simp [SlotList.handleAt?_eq, place]
  simp only [erase, found, Option.bind_some, located]
  refine ⟨trivial, taken, ?_⟩
  rw [toList, SlotList.elements, left, List.map_append]

theorem toList_rekey (linked : roster.participants.IsLinked) (position : Nat)
    (key : Option SigningKey) :
    (roster.change (.rekey position key)).toList =
      roster.toList.modify position fun participant => { participant with key } := by
  have whole : roster.toList = roster.participants.entries.map Prod.snd := rfl
  cases found : roster.participants.entries[position]? with
  | none =>
    rw [List.getElem?_eq_none_iff] at found
    have unchanged : roster.change (.rekey position key) = roster := by
      rw [change, modify?, SlotList.modifyAt?_of_le found]
      rfl
    rw [unchanged, List.modify_eq_self]
    rwa [whole, List.length_map]
  | some entry =>
    obtain ⟨front, back, split, rfl⟩ := SlotList.getElem?_split found
    obtain ⟨participants, modified, entries⟩ :=
      linked.modify?_eq split fun participant => { participant with key }
    have changed : (roster.change (.rekey front.length key)).toList =
        participants.entries.map Prod.snd := by
      rw [change, modify?, SlotList.modifyAt?_eq split, modified]
      rfl
    have place : front.length = (front.map Prod.snd).length + 0 := (List.length_map _).symm
    rw [changed, entries, whole, split, List.map_append, List.map_append, place, List.modify,
      List.modifyTailIdx_add]
    rfl

end Roster

def Block.filled (size : Nat) (byte : UInt8) : Block size :=
  ⟨List.replicate size byte, List.length_replicate⟩

namespace Participant

def alice : Participant := ⟨"alice", some ⟨.filled _ 0, none⟩⟩

def bob : Participant := ⟨"bob", some ⟨.filled _ 1, none⟩⟩

def carol : Participant := ⟨"carol", some ⟨.filled _ 2, none⟩⟩

end Participant

end GroupChat

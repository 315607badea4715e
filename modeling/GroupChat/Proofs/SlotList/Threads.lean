import GroupChat.Proofs.SlotList.Operations
import Mathlib.Data.List.Induction

/-!
The ways through a list: from the head along what follows, and from the tail along what comes before.
Both come to the same slots, and these are all that are occupied. The free slots are all others.
-/
namespace GroupChat.SlotList

variable {α : Type} {collation : Collation α} {list : SlotList collation}
variable {chain front back : List (Nat × α)}

/-- The slots that are visited on the way from `cursor` along the links of the nodes. The way comes
to an end, and every slot on it is occupied. -/
inductive Follows (list : SlotList collation) (link : Node α → Option Nat) :
    (cursor : Option Nat) → (visited : List Nat) → Prop
  | done : Follows list link none []
  | step {index : Nat} {node : Node α} {visited : List Nat}
      (occupied : list.nodeAt? index = some node) (others : Follows list link (link node) visited) :
      Follows list link (some index) (index :: visited)

/-- Two threads run through the slots of a list, the one the reverse of the other, and what is
not on them is free. -/
structure Threads (list : SlotList collation) (visited : List Nat) : Prop where
  forward : list.Follows Node.next list.head visited
  ends : list.tail = visited.getLast?
  backward : list.Follows Node.previous list.tail visited.reverse
  size : list.size = visited.length
  once : visited.Nodup
  occupied : ∀ index, index ∈ visited ↔ (list.nodeAt? index).isSome
  free : list.TracksFree

inductive LeadsAlong (list : SlotList collation) : List (Nat × α) → Prop
  | nil : LeadsAlong list []
  | cons {index : Nat} {element : α} {previous : Option Nat} {rest : List (Nat × α)}
      (node : list.nodeAt? index = some ⟨element, previous, firstSlot rest⟩)
      (others : LeadsAlong list rest) : LeadsAlong list ((index, element) :: rest)

theorem LeadsAlong.follows_next (leads : list.LeadsAlong chain) :
    list.Follows Node.next (firstSlot chain) (chain.map Prod.fst) := by
  induction leads with
  | nil => exact .done
  | cons node _ ih => exact .step node ih

namespace Represents

theorem leadsAlong_back (represents : list.Represents chain) (split : chain = front ++ back) :
    list.LeadsAlong back := by
  induction back generalizing front with
  | nil => exact .nil
  | cons entry rest ih => exact .cons (represents.node split) (ih (split.trans (List.append_cons ..)))

theorem leadsAlong (represents : list.Represents chain) : list.LeadsAlong chain :=
  represents.leadsAlong_back (List.nil_append chain).symm

theorem follows_previous (represents : list.Represents chain) (split : chain = front ++ back) :
    list.Follows Node.previous (lastSlot front) (front.map Prod.fst).reverse := by
  induction front using List.reverseRecOn generalizing back with
  | nil => exact .done
  | append_singleton front entry ih =>
    have place := split.trans (List.append_cons ..).symm
    rw [lastSlot_append, List.map_append, List.reverse_append]
    exact .step (represents.node place) (ih place)

theorem mem_iff (represents : list.Represents chain) (index : Nat) :
    index ∈ chain.map Prod.fst ↔ (list.nodeAt? index).isSome := by
  rw [Option.isSome_iff_exists]
  constructor
  · exact represents.exists_node
  · rintro ⟨node, occupied⟩
    exact represents.covers occupied

theorem threads (represents : list.Represents chain) : list.Threads (chain.map Prod.fst) where
  forward := by
    rw [represents.head]
    exact represents.leadsAlong.follows_next
  ends := by rw [represents.tail, lastSlot, List.getLast?_map]
  backward := by
    rw [represents.tail]
    exact represents.follows_previous (List.append_nil chain).symm
  size := by rw [represents.size, List.length_map]
  once := represents.nodup
  occupied := represents.mem_iff
  free := represents.free

end Represents

theorem IsLinked.exists_threads (linked : list.IsLinked) : ∃ visited, list.Threads visited := by
  obtain ⟨chain, represents⟩ := linked
  exact ⟨_, represents.threads⟩

end GroupChat.SlotList

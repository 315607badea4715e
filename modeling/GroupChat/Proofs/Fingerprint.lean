import GroupChat.Proofs.RosterOrder
import Mathlib.Data.List.Basic

/-!
What the fingerprint of a table settles. It is the digest of the public keys in table order, which all
have one size and nothing between them. So tables whose fingerprints are of the same data have as many
participants, and the same public key at every position.
-/
namespace GroupChat

theorem Block.flatten_injective {size : Nat} (positive : 0 < size) :
    Function.Injective fun blocks : List (Block size) => (blocks.map Block.bytes).flatten := by
  have nonempty (block : Block size) : block.bytes ≠ [] := by
    rw [← List.length_pos_iff, block.size_eq]
    exact positive
  intro blocks others same
  induction blocks generalizing others with
  | nil =>
    cases others with
    | nil => rfl
    | cons other others => simp [nonempty other] at same
  | cons block blocks ih =>
    cases others with
    | nil => simp [nonempty block] at same
    | cons other others =>
      simp only [List.map_cons, List.flatten_cons] at same
      obtain ⟨first, further⟩ := List.append_inj same (block.size_eq.trans other.size_eq.symm)
      rw [Block.ext first, ih further]

/-- Two byte strings have one digest and are not the same. -/
def Sha512.Collides (a b : Bytes) : Prop := a ≠ b ∧ sha512 a = sha512 b

namespace Roster

open Participant

variable {roster other : Roster}

def IsKeyed (roster : Roster) : Prop := ∀ participant ∈ roster.toList, participant.key.isSome

def publicKeys (roster : Roster) : List PublicKey := roster.cards.filterMap Prod.snd

/-- The data that the fingerprint is the digest of. -/
def keyData (roster : Roster) : Bytes := (keysOn roster.cards).flatten

theorem isKeyed_iff : roster.IsKeyed ↔ ∀ card ∈ roster.cards, card.2.isSome := by
  simp [IsKeyed, cards, card]

theorem keyData_eq_iff : roster.keyData = other.keyData ↔ roster.publicKeys = other.publicKeys := by
  have keys (roster : Roster) : keysOn roster.cards = roster.publicKeys.map Block.bytes :=
    List.map_filterMap.symm
  rw [keyData, keyData, keys, keys]
  exact (Block.flatten_injective (by decide)).eq_iff

theorem sha512_keyData_eq_iff (distinct : ¬ Sha512.Collides roster.keyData other.keyData) :
    sha512 roster.keyData = sha512 other.keyData ↔ roster.publicKeys = other.publicKeys := by
  rw [← keyData_eq_iff]
  refine ⟨fun same => ?_, congrArg sha512⟩
  by_contra apart
  exact distinct ⟨apart, same⟩

theorem isSome_of_mapM_keyBytes {list : List Participant} {keys : List Bytes}
    (collected : list.mapM keyBytes = .ok keys) :
    ∀ participant ∈ list, participant.key.isSome := by
  induction list generalizing keys with
  | nil => exact fun _ absent => absurd absent List.not_mem_nil
  | cons first rest ih =>
    rw [List.mapM_cons] at collected
    cases held : first.key with
    | none =>
      have refused : keyBytes first = .error (.noKey first.name) := by rw [keyBytes, held]; rfl
      rw [refused] at collected
      contradiction
    | some key =>
      have taken : keyBytes first = .ok key.publicHalf.bytes := by rw [keyBytes, held]; rfl
      rw [taken] at collected
      cases others : rest.mapM keyBytes with
      | error cause =>
        rw [others] at collected
        contradiction
      | ok more =>
        refine List.forall_mem_cons.mpr ⟨?_, ih others⟩
        rw [held, Option.isSome_some]

theorem fingerprint_eq_ok {fingerprint : Digest} :
    roster.fingerprint = .ok fingerprint ↔
      roster.IsKeyed ∧ sha512 roster.keyData = fingerprint := by
  have digest (keyed : roster.IsKeyed) : roster.fingerprint = .ok (sha512 roster.keyData) :=
    fingerprint_of_cards (isKeyed_iff.mp keyed)
  refine ⟨fun ok => ?_, fun ⟨keyed, same⟩ => same ▸ digest keyed⟩
  have keyed : roster.IsKeyed := by
    rw [fingerprint_eq] at ok
    cases collected : roster.toList.mapM keyBytes with
    | error cause =>
      rw [collected] at ok
      contradiction
    | ok keys => exact isSome_of_mapM_keyBytes collected
  rw [digest keyed, Except.ok.injEq] at ok
  exact ⟨keyed, ok⟩

namespace IsKeyed

theorem map_some_publicKeys (keyed : roster.IsKeyed) :
    roster.publicKeys.map some =
      roster.toList.map fun participant => participant.key.map SigningKey.publicHalf := by
  rw [publicKeys, cards, List.filterMap_map, List.map_filterMap,
    List.filterMap_eq_map_iff_forall_eq_some]
  intro participant member
  obtain ⟨key, held⟩ := Option.isSome_iff_exists.mp (keyed participant member)
  simp [card, held]

theorem length_publicKeys (keyed : roster.IsKeyed) (linked : roster.participants.IsLinked) :
    roster.publicKeys.length = roster.size := by
  have lengths := congrArg List.length keyed.map_some_publicKeys
  rw [List.length_map, List.length_map] at lengths
  exact lengths.trans linked.size_eq.symm

theorem getElem?_publicKeys (keyed : roster.IsKeyed) (position : Nat) :
    roster.publicKeys[position]? = (roster.keyAt? position).map SigningKey.publicHalf := by
  have places := congrArg (·[position]?) keyed.map_some_publicKeys
  simp only [List.getElem?_map] at places
  have found : roster.get? position = roster.toList[position]? := rfl
  rw [keyAt?, found]
  cases entry : roster.toList[position]? with
  | none => simpa [entry] using places
  | some participant =>
    obtain ⟨key, held, same⟩ := Option.map_eq_some_iff.mp (places.trans (by rw [entry]; rfl))
    rw [held, same]
    rfl

theorem publicKeys_eq_iff (keyed : roster.IsKeyed) (otherKeyed : other.IsKeyed)
    (linked : roster.participants.IsLinked) (otherLinked : other.participants.IsLinked) :
    roster.publicKeys = other.publicKeys ↔
      roster.size = other.size ∧ ∀ position,
        (roster.keyAt? position).map SigningKey.publicHalf =
          (other.keyAt? position).map SigningKey.publicHalf := by
  refine ⟨fun same => ⟨?_, fun position => ?_⟩, fun ⟨_, places⟩ => ?_⟩
  · rw [← keyed.length_publicKeys linked, same, otherKeyed.length_publicKeys otherLinked]
  · rw [← keyed.getElem?_publicKeys, same, otherKeyed.getElem?_publicKeys]
  · refine List.ext_getElem? fun position => ?_
    rw [keyed.getElem?_publicKeys, otherKeyed.getElem?_publicKeys, places]

end IsKeyed

end Roster

end GroupChat

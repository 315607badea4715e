import GroupChat.Attestation.Round
import GroupChat.Proofs.SlotList.Chain
import Mathlib.Data.List.Induction

/-!
Tables that are built by adding participants. Participants of different names stand in one order,
whatever the order they were added in, so that they have the same positions and the same fingerprint
in all tables of the same names and public keys.
-/
namespace GroupChat

namespace Participant

/-- What of a participant counts for attestation: the name, and the public half of the key. -/
def card (participant : Participant) : String × Option PublicKey :=
  (participant.name, participant.key.map SigningKey.publicHalf)

variable {a b : Participant}

instance : Std.TransCmp compareNames :=
  inferInstanceAs (Std.TransCmp (compareOn fun participant : Participant => utf8 participant.name))

theorem compareNames_eq_eq : compareNames a b = .eq ↔ a.name = b.name := by
  refine ⟨fun same => ?_, fun same => ?_⟩
  · exact utf8_injective (Std.LawfulEqCmp.eq_of_compare same)
  · rw [compareNames, same]
    exact Std.ReflCmp.compare_self

theorem compareNames_total (distinct : a.name ≠ b.name) (after : compareNames a b ≠ .lt) :
    compareNames b a = .lt := by
  cases order : compareNames a b with
  | lt => exact absurd order after
  | eq => exact absurd (compareNames_eq_eq.mp order) distinct
  | gt => exact Std.OrientedCmp.gt_iff_lt.mp order

end Participant

namespace Roster

open Participant

theorem pairwise_orderedInsert {list : List Participant} {participant : Participant}
    (sorted : list.Pairwise fun a b => compareNames a b = .lt)
    (absent : participant.name ∉ list.map Participant.name) :
    (list.orderedInsert (compareNames · · = .lt) participant).Pairwise
      fun a b => compareNames a b = .lt := by
  induction list with
  | nil => exact List.pairwise_singleton _ _
  | cons first rest ih =>
    obtain ⟨least, sorted⟩ := List.pairwise_cons.mp sorted
    rw [List.map_cons, List.mem_cons, not_or] at absent
    rw [List.orderedInsert_cons]
    by_cases before : compareNames participant first = .lt
    · rw [if_pos before]
      refine List.pairwise_cons.mpr ⟨fun other member => ?_, List.pairwise_cons.mpr ⟨least, sorted⟩⟩
      obtain rfl | member := List.mem_cons.mp member
      · exact before
      · exact Std.TransCmp.lt_trans before (least other member)
    · rw [if_neg before]
      refine List.pairwise_cons.mpr ⟨fun other member => ?_, ih sorted absent.2⟩
      obtain rfl | member := (List.mem_orderedInsert _).mp member
      · exact compareNames_total absent.1 before
      · exact least other member

def ofParticipants (participants : List Participant) : Roster :=
  participants.foldl (fun roster participant => (roster.insert participant).2) .empty

theorem ofParticipants_concat (participants : List Participant) (participant : Participant) :
    ofParticipants (participants ++ [participant]) =
      ((ofParticipants participants).insert participant).2 := by
  simp [ofParticipants]

theorem isLinked_ofParticipants (participants : List Participant) :
    (ofParticipants participants).participants.IsLinked := by
  induction participants using List.reverseRecOn with
  | nil => exact SlotList.IsLinked.empty
  | append_singleton participants participant ih =>
    rw [ofParticipants_concat]
    exact ih.insert participant

theorem toList_concat (participants : List Participant) (participant : Participant) :
    (ofParticipants (participants ++ [participant])).toList =
      (ofParticipants participants).toList.orderedInsert (compareNames · · = .lt) participant := by
  rw [ofParticipants_concat]
  exact (isLinked_ofParticipants participants).elements_insert participant

theorem toList_perm (participants : List Participant) :
    (ofParticipants participants).toList.Perm participants := by
  induction participants using List.reverseRecOn with
  | nil => exact .refl []
  | append_singleton participants participant ih =>
    rw [toList_concat]
    calc
      List.Perm _ (participant :: (ofParticipants participants).toList) :=
        List.perm_orderedInsert _ _ _
      List.Perm _ (participant :: participants) := ih.cons participant
      List.Perm _ (participants ++ [participant]) :=
        (List.perm_append_singleton participant participants).symm

theorem toList_sorted {participants : List Participant}
    (distinct : (participants.map Participant.name).Nodup) :
    (ofParticipants participants).toList.Pairwise fun a b => compareNames a b = .lt := by
  induction participants using List.reverseRecOn with
  | nil => exact .nil
  | append_singleton participants participant ih =>
    rw [List.map_append, List.map_singleton, ← List.concat_eq_append, List.nodup_concat] at distinct
    rw [toList_concat]
    refine pairwise_orderedInsert (ih distinct.2) fun member => distinct.1 ?_
    exact ((toList_perm participants).map Participant.name).mem_iff.mp member

theorem size_ofParticipants (participants : List Participant) :
    (ofParticipants participants).size = participants.length := by
  rw [size, (isLinked_ofParticipants participants).size_eq]
  exact (toList_perm participants).length_eq

def cards (roster : Roster) : List (String × Option PublicKey) := roster.toList.map card

theorem cards_perm (participants : List Participant) :
    (ofParticipants participants).cards.Perm (participants.map card) :=
  (toList_perm participants).map card

theorem cards_sorted {participants : List Participant}
    (distinct : (participants.map Participant.name).Nodup) :
    (ofParticipants participants).cards.Pairwise
      fun a b => compare (utf8 a.1) (utf8 b.1) = .lt :=
  List.pairwise_map.mpr (toList_sorted distinct)

theorem cards_ofParticipants {participants others : List Participant}
    (distinct : (participants.map Participant.name).Nodup)
    (same : (others.map card).Perm (participants.map card)) :
    (ofParticipants others).cards = (ofParticipants participants).cards := by
  have names := same.map Prod.fst
  rw [List.map_map, List.map_map] at names
  refine List.Perm.eq_of_pairwise (fun a b _ _ before after => ?_)
    (cards_sorted (names.nodup_iff.mpr distinct)) (cards_sorted distinct) ?_
  · rw [Std.OrientedCmp.gt_iff_lt.mpr before] at after
    contradiction
  · exact (cards_perm others).trans (same.trans (cards_perm participants).symm)

theorem positionOf?_eq (roster : Roster) (name : String) :
    roster.positionOf? name = roster.cards.findIdx? fun card => card.1 = name := by
  rw [cards, List.findIdx?_map]
  rfl

def keyBytes (participant : Participant) : Except AttestationError Bytes :=
  match participant.key with
  | some key => pure key.publicHalf.bytes
  | none => throw (.noKey participant.name)

theorem fingerprint_eq (roster : Roster) :
    roster.fingerprint = (do
      let keys ← roster.toList.mapM keyBytes
      return sha512Concat keys) := rfl

def keysOn (cards : List (String × Option PublicKey)) : List Bytes :=
  cards.filterMap fun card => card.2.map Block.bytes

theorem mapM_keyBytes {list : List Participant}
    (present : ∀ entry ∈ list.map card, entry.2.isSome) :
    list.mapM keyBytes = .ok (keysOn (list.map card)) := by
  induction list with
  | nil => rfl
  | cons participant rest ih =>
    obtain ⟨first, others⟩ := List.forall_mem_cons.mp present
    obtain ⟨key, found⟩ := Option.isSome_iff_exists.mp first
    obtain ⟨signingKey, located, rfl⟩ := Option.map_eq_some_iff.mp found
    have collected : keysOn (participant.card :: rest.map card) =
        signingKey.publicHalf.bytes :: keysOn (rest.map card) := by
      simp [keysOn, found]
    rw [List.mapM_cons, ih others, keyBytes, located, List.map_cons, collected]
    rfl

/-- Of the participants without a key, the first one is to blame. -/
theorem mapM_keyBytes_eq_error {list : List Participant} {error : AttestationError}
    (failed : list.mapM keyBytes = .error error) :
    ∃ participant, list.find? (·.key.isNone) = some participant ∧
      error = .noKey participant.name := by
  induction list with
  | nil => contradiction
  | cons first rest ih =>
    rw [List.mapM_cons] at failed
    cases held : first.key with
    | none =>
      have refused : keyBytes first = .error (.noKey first.name) := by rw [keyBytes, held]; rfl
      rw [refused] at failed
      exact ⟨first, List.find?_cons_of_pos (by rw [held]; rfl), (Except.error.inj failed).symm⟩
    | some key =>
      have taken : keyBytes first = .ok key.publicHalf.bytes := by rw [keyBytes, held]; rfl
      rw [taken] at failed
      have passed : (first :: rest).find? (·.key.isNone) = rest.find? (·.key.isNone) :=
        List.find?_cons_of_neg (by simp [held])
      rw [passed]
      refine ih ?_
      cases others : rest.mapM keyBytes with
      | error cause =>
        rw [others] at failed
        exact failed
      | ok keys =>
        rw [others] at failed
        contradiction

theorem fingerprint_eq_error {roster : Roster} {error : AttestationError}
    (failed : roster.fingerprint = .error error) : ∃ participant,
      roster.toList.find? (·.key.isNone) = some participant ∧ error = .noKey participant.name := by
  rw [fingerprint_eq] at failed
  cases collected : roster.toList.mapM keyBytes with
  | error cause =>
    rw [collected] at failed
    obtain rfl := Except.error.inj failed
    exact mapM_keyBytes_eq_error collected
  | ok keys =>
    rw [collected] at failed
    contradiction

theorem fingerprint_of_cards {roster : Roster} (present : ∀ entry ∈ roster.cards, entry.2.isSome) :
    roster.fingerprint = .ok (sha512Concat (keysOn roster.cards)) := by
  rw [fingerprint_eq, mapM_keyBytes present]
  rfl

end Roster

end GroupChat

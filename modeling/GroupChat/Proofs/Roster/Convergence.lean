import GroupChat.Proofs.Fingerprint
import GroupChat.Proofs.Roster.Standing

/-!
Tables do not remember how they came about. When all names are different, who is in a table settles
where everybody stands, whether the table is equal to another one, and its fingerprint. Of keys, only
the public halves count, as they do when keys are compared.
-/
namespace GroupChat

namespace Participant

theorem beq_iff {a b : Participant} : (a == b) = true ↔ a.card = b.card := by
  obtain ⟨name, key⟩ := a
  obtain ⟨other, otherKey⟩ := b
  have names : (Participant.mk name key == ⟨other, otherKey⟩) =
      (name == other && key == otherKey) := rfl
  have halves (a b : SigningKey) : (a == b) = (a.publicHalf == b.publicHalf) := rfl
  rw [names, Bool.and_eq_true, beq_iff_eq, card, card, Prod.mk.injEq]
  refine and_congr_right fun _ => ?_
  cases key <;> cases otherKey <;> simp [halves]

theorem list_beq_iff {list others : List Participant} :
    (list == others) = true ↔ list.map card = others.map card := by
  induction list generalizing others with
  | nil => cases others <;> simp
  | cons first rest ih =>
    cases others with
    | nil => simp
    | cons other others =>
      rw [List.cons_beq_cons, Bool.and_eq_true, beq_iff, ih, List.map_cons, List.map_cons,
        List.cons.injEq]

end Participant

namespace Roster

open Participant

variable {roster other : Roster} {changes : List Change}

theorem pairwise_ofChanges (distinct : ((ofChanges changes).toList.map Participant.name).Nodup) :
    (ofChanges changes).toList.Pairwise fun a b => compareNames a b = .lt := by
  obtain ⟨table, lists⟩ := exists_lists changes
  rw [lists.toList, List.map_map] at distinct
  rw [lists.toList, List.pairwise_map]
  refine (lists.sorted.and (List.pairwise_map.mp distinct)).imp fun {a b} ⟨precedes, apart⟩ => ?_
  exact precedes.resolve_right fun same => apart same.1

theorem cards_eq (sorted : roster.toList.Pairwise fun a b => compareNames a b = .lt)
    (otherSorted : other.toList.Pairwise fun a b => compareNames a b = .lt)
    (same : ∀ card, card ∈ roster.cards ↔ card ∈ other.cards) : roster.cards = other.cards := by
  have ordered {roster : Roster}
      (sorted : roster.toList.Pairwise fun a b => compareNames a b = .lt) :
      roster.cards.Pairwise fun a b => compare (utf8 a.1) (utf8 b.1) = .lt :=
    List.pairwise_map.mpr sorted
  have nodup {cards : List (String × Option PublicKey)}
      (sorted : cards.Pairwise fun a b => compare (utf8 a.1) (utf8 b.1) = .lt) : cards.Nodup :=
    sorted.imp fun {a b} before equal => by
      subst equal
      exact Std.OrientedCmp.not_lt_of_lt before before
  have perm := (List.perm_ext_iff_of_nodup (nodup (ordered sorted))
    (nodup (ordered otherSorted))).mpr same
  refine perm.eq_of_pairwise (fun a b _ _ before after => ?_) (ordered sorted) (ordered otherSorted)
  exact absurd after (Std.OrientedCmp.not_lt_of_lt before)

theorem get?_map_card (roster : Roster) (position : Nat) :
    (roster.get? position).map card = roster.cards[position]? := List.getElem?_map.symm

theorem find?_cards (roster : Roster) :
    roster.cards.find? (·.2.isNone) = (roster.toList.find? (·.key.isNone)).map card := by
  have lacks : ((·.2.isNone) : String × Option PublicKey → Bool) ∘ card = (·.key.isNone) := by
    funext participant
    simp [card]
  rw [cards, List.find?_map, lacks]

theorem keyData_eq (roster : Roster) :
    roster.keyData = (roster.toList.filterMap fun participant =>
      participant.key.map fun key => key.publicHalf.bytes).flatten := by
  rw [keyData, keysOn, cards, List.filterMap_map]
  simp [card, Function.comp_def]

theorem isKeyed_iff_find? : roster.IsKeyed ↔ roster.toList.find? (·.key.isNone) = none := by
  simp [IsKeyed, List.find?_eq_none, Option.isSome_iff_ne_none]

/-- The first participant without a key is to blame, if there is one, and else the keys of all make the
fingerprint. -/
theorem fingerprint_eq_match (roster : Roster) :
    roster.fingerprint =
      match roster.cards.find? (·.2.isNone) with
      | some card => .error (.noKey card.1)
      | none => .ok (sha512 roster.keyData) := by
  rw [find?_cards]
  cases missing : roster.toList.find? (·.key.isNone) with
  | none => exact fingerprint_eq_ok.mpr ⟨isKeyed_iff_find?.mpr missing, rfl⟩
  | some participant =>
    cases failed : roster.fingerprint with
    | ok fingerprint =>
      rw [isKeyed_iff_find?.mp (fingerprint_eq_ok.mp failed).1] at missing
      contradiction
    | error error =>
      obtain ⟨first, found, rfl⟩ := fingerprint_eq_error failed
      obtain rfl := Option.some.inj (missing.symm.trans found)
      rfl

theorem fingerprint_of_not_isKeyed (sorted : roster.toList.Pairwise fun a b => compareNames a b = .lt)
    (lacking : ¬ roster.IsKeyed) :
    ∃ participant ∈ roster.toList, participant.key = none ∧
      (∀ other ∈ roster.toList, other.key = none →
        other = participant ∨ compareNames participant other = .lt) ∧
      roster.fingerprint = .error (.noKey participant.name) := by
  obtain ⟨participant, found⟩ := Option.ne_none_iff_exists'.mp (mt isKeyed_iff_find?.mpr lacking)
  have blamed : roster.fingerprint = .error (.noKey participant.name) := by
    rw [fingerprint_eq_match, find?_cards, found]
    rfl
  obtain ⟨without, front, back, split, held⟩ := List.find?_eq_some_iff_append.mp found
  rw [split, List.pairwise_append, List.pairwise_cons] at sorted
  refine ⟨participant, List.mem_of_find?_eq_some found, Option.isNone_iff_eq_none.mp without,
    fun other member missing => ?_, blamed⟩
  rw [split, List.mem_append, List.mem_cons] at member
  obtain before | rfl | behind := member
  · have has := held other before
    simp [missing] at has
  · exact .inl rfl
  · exact .inr (sorted.2.1.1 other behind)

/-- Tables that have come about in any two ways and have the same participants, all of different
names, are the same table with the same fingerprint. It is the digest of the public keys in the order
of the names, or else blames whoever has the smallest name of those without a key. -/
theorem converges (changes others : List Change)
    (distinct : ((ofChanges changes).toList.map Participant.name).Nodup)
    (otherDistinct : ((ofChanges others).toList.map Participant.name).Nodup)
    (same : ∀ card, card ∈ (ofChanges changes).cards ↔ card ∈ (ofChanges others).cards) :
    let roster := ofChanges changes
    let other := ofChanges others
    (∀ position, (roster.get? position).map card = (other.get? position).map card) ∧
      (∀ name, roster.positionOf? name = other.positionOf? name) ∧ (roster == other) = true ∧
      roster.fingerprint = other.fingerprint ∧
      roster.toList.Pairwise (fun a b => compareNames a b = .lt) ∧
      (roster.IsKeyed → roster.fingerprint = .ok (sha512 (roster.toList.filterMap fun participant =>
        participant.key.map fun key => key.publicHalf.bytes).flatten)) ∧
      (¬ roster.IsKeyed → ∃ participant ∈ roster.toList, participant.key = none ∧
        (∀ other ∈ roster.toList, other.key = none →
          other = participant ∨ compareNames participant other = .lt) ∧
        roster.fingerprint = .error (.noKey participant.name)) := by
  intro roster other
  have sorted := pairwise_ofChanges distinct
  have cards : roster.cards = other.cards := cards_eq sorted (pairwise_ofChanges otherDistinct) same
  refine ⟨fun position => ?_, fun name => ?_, ?_, ?_, sorted, fun keyed => ?_,
    fingerprint_of_not_isKeyed sorted⟩
  · rw [get?_map_card, get?_map_card, cards]
  · rw [positionOf?_eq, positionOf?_eq, cards]
  · have equal : (roster == other) = (roster.toList == other.toList) :=
      (isLinked_ofChanges changes).beq_eq (isLinked_ofChanges others)
    rw [equal]
    exact list_beq_iff.mpr cards
  · rw [fingerprint_eq_match, fingerprint_eq_match, cards, keyData, keyData, cards]
  · rw [← keyData_eq]
    exact fingerprint_eq_ok.mpr ⟨keyed, rfl⟩

theorem converges_roundabout :
    let roster := ofChanges [.insert alice, .insert bob]
    let other := ofChanges [.insert carol, .insert ⟨"bob", none⟩, .erase "carol",
      .insert ⟨"alice", some ⟨.filled _ 0, some (.filled _ 7)⟩⟩, .rekey 1 bob.key]
    roster.IsKeyed ∧ (roster == other) = true ∧ roster.fingerprint = other.fingerprint := by
  intro roster other
  have cards : roster.cards = other.cards := by decide
  obtain ⟨_, _, equal, fingerprints, _⟩ :=
    converges [.insert alice, .insert bob] [.insert carol, .insert ⟨"bob", none⟩, .erase "carol",
      .insert ⟨"alice", some ⟨.filled _ 0, some (.filled _ 7)⟩⟩, .rekey 1 bob.key]
      (by decide) (by decide) fun card => iff_of_eq (congrArg (card ∈ ·) cards)
  exact ⟨isKeyed_iff.mpr (by decide), equal, fingerprints⟩

end Roster

end GroupChat

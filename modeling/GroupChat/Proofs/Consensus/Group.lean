import GroupChat.Proofs.Attestation.Verdicts
import GroupChat.Proofs.FrameCodec
import GroupChat.Proofs.RosterOrder
import Mathlib.Data.Fintype.EquivFin
import Mathlib.Data.List.FinRange

/-!
A group of parties that are about to attest to each other, and what all their chats have in common:
the positions of the parties, the fingerprint of the table, and so the attestations.
-/
namespace GroupChat

structure ChatGroup (n : Nat) where
  name : Fin n → String
  key : Fin n → PublicKey
  sessionId : SessionId
  distinct : Function.Injective name
  several : 2 ≤ n

namespace ChatGroup

open Participant

variable {n : Nat} (group : ChatGroup n)

def participant (party : Fin n) : Participant := ⟨group.name party, some ⟨group.key party, none⟩⟩

def participants : List Participant := List.ofFn group.participant

def roster : Roster := .ofParticipants group.participants

def cards : List (String × Option PublicKey) := group.roster.cards

def position (party : Fin n) : Nat := group.cards.findIdx fun card => card.1 = group.name party

def fingerprint : Digest := sha512Concat (Roster.keysOn group.cards)

theorem names_nodup : (group.participants.map Participant.name).Nodup := by
  rw [participants, List.map_ofFn]
  exact List.nodup_ofFn.mpr group.distinct

theorem mem_cards {card : String × Option PublicKey} :
    card ∈ group.cards ↔ ∃ party, (group.participant party).card = card := by
  rw [cards, roster, (Roster.cards_perm _).mem_iff, participants, List.map_ofFn, List.mem_ofFn]
  rfl

theorem length_cards : group.cards.length = n := by
  rw [cards, roster, (Roster.cards_perm _).length_eq, participants, List.length_map,
    List.length_ofFn]

theorem exists_card (party : Fin n) :
    ∃ card ∈ group.cards, decide (card.1 = group.name party) :=
  ⟨_, group.mem_cards.mpr ⟨party, rfl⟩, decide_eq_true rfl⟩

theorem position_lt (party : Fin n) : group.position party < n := by
  have inRange := List.findIdx_lt_length_of_exists (group.exists_card party)
  rwa [length_cards] at inRange

theorem name_at_position (party : Fin n) :
    group.cards[group.position party]?.map Prod.fst = some (group.name party) := by
  have inRange := List.findIdx_lt_length_of_exists (group.exists_card party)
  have named := List.findIdx_getElem (w := inRange)
  rw [position, List.getElem?_eq_getElem inRange, Option.map_some, of_decide_eq_true named]

theorem position_injective : Function.Injective group.position := by
  intro party other same
  have named := group.name_at_position party
  rw [same, group.name_at_position other, Option.some.injEq] at named
  exact group.distinct named.symm

theorem exists_position {position : Nat} (inRange : position < n) :
    ∃ party, group.position party = position := by
  let place (party : Fin n) : Fin n := ⟨group.position party, group.position_lt party⟩
  have injective : Function.Injective place := fun party other same =>
    group.position_injective (Fin.val_eq_of_eq same)
  obtain ⟨party, same⟩ := Finite.surjective_of_injective injective ⟨position, inRange⟩
  exact ⟨party, congrArg Fin.val same⟩

/-- A chat of a party before its attestation. The table has been made by adding the participants, in
any order; private halves of keys do not matter. -/
structure Opens (party : Fin n) (chat : Chat) : Prop where
  name : chat.name = group.name party
  sessionId : chat.sessionId = some group.sessionId
  table : ∃ added : List Participant, chat.roster = .ofParticipants added ∧
    (added.map card).Perm (group.participants.map card)
  tally : chat.tally = none
  phase : chat.phase ≠ .encrypted

structure IsMember (party : Fin n) (chat : Chat) : Prop where
  name : chat.name = group.name party
  sessionId : chat.sessionId = some group.sessionId
  cards : chat.roster.cards = group.cards
  size : chat.roster.size = n

structure IsAttestation (party : Fin n) (message : Message) : Prop where
  sender : message.sender = group.name party
  sessionId : message.sessionId = some group.sessionId
  payload : message.payload = .attest group.sessionId group.fingerprint

variable {group} {party : Fin n} {chat : Chat}

theorem Opens.isMember (opens : group.Opens party chat) : group.IsMember party chat := by
  obtain ⟨added, table, same⟩ := opens.table
  refine ⟨opens.name, opens.sessionId, ?_, ?_⟩
  · rw [table]
    exact Roster.cards_ofParticipants group.names_nodup same
  · rw [table, Roster.size_ofParticipants, ← List.length_map (f := card), same.length_eq,
      List.length_map, participants, List.length_ofFn]

namespace IsMember

theorem positionOf? (member : group.IsMember party chat) (other : Fin n) :
    chat.roster.positionOf? (group.name other) = some (group.position other) := by
  rw [Roster.positionOf?_eq, member.cards]
  exact List.findIdx?_eq_some_of_exists (group.exists_card other)

theorem ownPosition? (member : group.IsMember party chat) :
    chat.ownPosition? = some (group.position party) := by
  rw [Chat.ownPosition?, member.name]
  exact member.positionOf? party

theorem fingerprint (member : group.IsMember party chat) :
    chat.roster.fingerprint = .ok group.fingerprint := by
  rw [ChatGroup.fingerprint, ← member.cards]
  refine Roster.fingerprint_of_cards fun card present => ?_
  rw [member.cards] at present
  obtain ⟨party, rfl⟩ := group.mem_cards.mp present
  rfl

theorem agrees (member : group.IsMember party chat) :
    chat.agrees group.sessionId group.fingerprint = .ok true :=
  Chat.agrees_eq_ok_true.mpr ⟨member.sessionId, member.fingerprint⟩

theorem attestation (member : group.IsMember party chat) :
    ∃ message, chat.attestation = .ok message ∧ group.IsAttestation party message := by
  have attests : chat.attestation = .ok (chat.attesting group.sessionId group.fingerprint) :=
    Chat.attestation_eq_ok.mpr ⟨_, _, member.sessionId, member.fingerprint, rfl⟩
  exact ⟨_, attests, member.name, rfl, rfl⟩

theorem withTally (member : group.IsMember party chat) (tally : Tally) :
    group.IsMember party (chat.withTally tally) :=
  ⟨member.name, member.sessionId, member.cards, member.size⟩

end IsMember

theorem IsAttestation.crosses {message : Message}
    (attestation : group.IsAttestation party message) :
    message.encode = .ok message.frame.bytes ∧
      Message.decode message.frame.bytes message.sender = .ok message := by
  have session : message.sessionId.isSome := by rw [attestation.sessionId, Option.isSome_some]
  exact Message.decode_encode_attest session attestation.payload

end ChatGroup

end GroupChat

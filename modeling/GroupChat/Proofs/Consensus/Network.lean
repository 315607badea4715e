import GroupChat.Proofs.Consensus.Party
import Mathlib.Logic.Function.Basic
import Mathlib.Logic.Relation

/-!
The chats of a group and the attestations between them, which are given out and delivered in any
order. What a party has seen depends on what has been sent and delivered alone.
-/
namespace GroupChat

def Attesting.run? {α : Type} (step : Attesting α) (chat : Chat) : Option (α × Chat) :=
  match step chat with
  | .ok value chat => some (value, chat)
  | .error _ _ => none

def Chat.accept? (chat : Chat) (message : Message) : Option (Option Message × Chat) := do
  let frame ← message.encode.toOption
  let received ← (Message.decode frame message.sender).toOption
  (Attesting.receive received).run? chat

/-- The chats of `n` parties, the messages they have given out, and which of these have been
delivered to whom. -/
structure Network (n : Nat) where
  chats : Fin n → Chat
  sent : List (Fin n × Message)
  delivered : List (Nat × Fin n)

inductive NetworkEvent (n : Nat) where
  | start (party : Fin n)
  | deliver (index : Nat) (receiver : Fin n)

namespace Network

variable {n : Nat}

def update (network : Network n) (party : Fin n) (outcome : Option Message × Chat) : Network n :=
  { network with
    chats := Function.update network.chats party outcome.2
    sent := network.sent ++ outcome.1.toList.map fun message => (party, message) }

def addDelivery (network : Network n) (index : Nat) (receiver : Fin n) : Network n :=
  { network with delivered := (index, receiver) :: network.delivered }

def step? (network : Network n) : NetworkEvent n → Option (Network n)
  | .start party => do
    let outcome ← Attesting.start.run? (network.chats party)
    return network.update party outcome
  | .deliver index receiver => do
    let (_, message) ← network.sent[index]?
    let outcome ← (network.chats receiver).accept? message
    return (network.addDelivery index receiver).update receiver outcome

def IsFinished (network : Network n) (party : Fin n) : Prop :=
  (network.chats party).tally.map Tally.stage = some .finished

def IsEncrypted (network : Network n) (party : Fin n) : Prop :=
  (network.chats party).phase = .encrypted

/-- A party starts as long as it is not finished. A message is delivered to others than its sender,
and once to each. -/
def Allows (network : Network n) : NetworkEvent n → Prop
  | .start party => ¬ network.IsFinished party
  | .deliver index receiver => (index, receiver) ∉ network.delivered ∧
    ∃ sender message, network.sent[index]? = some (sender, message) ∧ sender ≠ receiver

def Steps (network next : Network n) : Prop :=
  ∃ event, network.Allows event ∧ network.step? event = some next

def Runs : Network n → Network n → Prop := Relation.ReflTransGen Steps

def Attested (network : Network n) (party : Fin n) : Prop :=
  ∃ message, (party, message) ∈ network.sent

def Delivered (network : Network n) (sender receiver : Fin n) : Prop :=
  ∃ index message, network.sent[index]? = some (sender, message) ∧
    (index, receiver) ∈ network.delivered

/-- The parties whose attestations a party has seen, its own included. -/
def confirmed (network : Network n) (party : Fin n) : Set (Fin n) :=
  { other | (other = party ∧ network.Attested party) ∨ network.Delivered other party }

variable {network : Network n} {group : ChatGroup n} {party sender receiver : Fin n}

structure IsTraced (group : ChatGroup n) (network : Network n) : Prop where
  attests : ∀ sender message, (sender, message) ∈ network.sent → group.IsAttestation sender message
  once : (network.sent.map Prod.fst).Nodup
  foreign : ∀ index receiver, (index, receiver) ∈ network.delivered →
    ∃ sender message, network.sent[index]? = some (sender, message) ∧ sender ≠ receiver

namespace IsTraced

theorem not_delivered_self (traced : network.IsTraced group) (party : Fin n) :
    ¬ network.Delivered party party := by
  intro delivered
  obtain ⟨index, message, located, present⟩ := delivered
  obtain ⟨sender, other, same, foreign⟩ := traced.foreign index party present
  rw [located, Option.some.injEq, Prod.mk.injEq] at same
  exact foreign same.1.symm

theorem mem_confirmed_self (traced : network.IsTraced group) (party : Fin n) :
    party ∈ network.confirmed party ↔ network.Attested party := by
  simp [confirmed, traced.not_delivered_self party]

theorem index_eq (traced : network.IsTraced group) {index position : Nat} {message other : Message}
    (located : network.sent[index]? = some (sender, message))
    (found : network.sent[position]? = some (sender, other)) : index = position := by
  have inside := (List.getElem?_eq_some_iff.mp located).1
  refine (List.getElem?_inj (by simpa using inside) traced.once).mp ?_
  rw [List.getElem?_map, List.getElem?_map, located, found]
  rfl

theorem addDelivery (traced : network.IsTraced group) {index : Nat} {message : Message}
    (located : network.sent[index]? = some (sender, message)) (foreign : sender ≠ receiver) :
    (network.addDelivery index receiver).IsTraced group where
  attests := traced.attests
  once := traced.once
  foreign other third present := by
    obtain new | old := List.mem_cons.mp present
    · obtain ⟨rfl, rfl⟩ := Prod.mk.inj new
      exact ⟨sender, message, located, foreign⟩
    · exact traced.foreign other third old

end IsTraced

theorem delivered_addDelivery {index : Nat} {message : Message}
    (located : network.sent[index]? = some (sender, message)) (other third : Fin n) :
    (network.addDelivery index receiver).Delivered other third ↔
      (other = sender ∧ third = receiver) ∨ network.Delivered other third := by
  refine ⟨fun delivered => ?_, fun delivered => ?_⟩
  · obtain ⟨position, carried, found, present⟩ := delivered
    obtain new | old := List.mem_cons.mp present
    · obtain ⟨rfl, rfl⟩ := Prod.mk.inj new
      obtain ⟨rfl, _⟩ := Prod.mk.inj (Option.some.inj (found.symm.trans located))
      exact .inl ⟨rfl, rfl⟩
    · exact .inr ⟨position, carried, found, old⟩
  · obtain ⟨rfl, rfl⟩ | ⟨position, carried, found, present⟩ := delivered
    · exact ⟨index, message, located, List.mem_cons_self⟩
    · exact ⟨position, carried, found, List.mem_cons_of_mem _ present⟩

theorem confirmed_addDelivery {index : Nat} {message : Message}
    (located : network.sent[index]? = some (sender, message)) (other : Fin n) :
    (network.addDelivery index receiver).confirmed other =
      if other = receiver then insert sender (network.confirmed receiver)
      else network.confirmed other := by
  ext third
  have attested : (network.addDelivery index receiver).Attested other ↔ network.Attested other :=
    Iff.rfl
  by_cases same : other = receiver
  · subst same
    simp only [confirmed, Set.mem_ofPred_eq, delivered_addDelivery located, attested, if_true,
      Set.mem_insert_iff, and_true]
    exact or_left_comm
  · simp only [confirmed, Set.mem_ofPred_eq, delivered_addDelivery located, attested, same,
      if_false, and_false, false_or]

theorem chats_update_self (network : Network n) (party : Fin n)
    (outcome : Option Message × Chat) : (network.update party outcome).chats party = outcome.2 :=
  Function.update_self ..

theorem chats_update_of_ne (network : Network n) (outcome : Option Message × Chat)
    {other : Fin n} (apart : other ≠ party) :
    (network.update party outcome).chats other = network.chats other :=
  Function.update_of_ne apart ..

theorem sent_update_none (network : Network n) (party : Fin n) (final : Chat) :
    (network.update party (none, final)).sent = network.sent := List.append_nil _

theorem sent_update_some (network : Network n) (party : Fin n) (message : Message) (final : Chat) :
    (network.update party (some message, final)).sent = network.sent ++ [(party, message)] := rfl

namespace IsTraced

theorem delivered_update (traced : network.IsTraced group) (outcome : Option Message × Chat)
    (other third : Fin n) :
    (network.update party outcome).Delivered other third ↔ network.Delivered other third := by
  refine ⟨fun delivered => ?_, fun delivered => ?_⟩
  · obtain ⟨index, message, found, present⟩ := delivered
    obtain ⟨sender, original, located, _⟩ := traced.foreign index third present
    have inside := (List.getElem?_eq_some_iff.mp located).1
    have kept : (network.update party outcome).sent[index]? = network.sent[index]? :=
      List.getElem?_append_left inside
    rw [kept] at found
    exact ⟨index, message, found, present⟩
  · obtain ⟨index, message, found, present⟩ := delivered
    have inside := (List.getElem?_eq_some_iff.mp found).1
    exact ⟨index, message, (List.getElem?_append_left inside).trans found, present⟩

theorem attested_update (traced : network.IsTraced group) {reply : Option Message} {final : Chat}
    (replies : group.Replies party (network.confirmed party) reply) (other : Fin n) :
    (network.update party (reply, final)).Attested other ↔
      other = party ∨ network.Attested other := by
  by_cases already : party ∈ network.confirmed party
  · rw [replies.silent already, Attested, sent_update_none]
    rw [traced.mem_confirmed_self] at already
    exact ⟨.inr, fun attested => attested.elim (fun same => same ▸ already) id⟩
  · obtain ⟨message, rfl, _⟩ := replies.attests already
    rw [Attested, sent_update_some]
    simp [Attested, exists_or, or_comm]

theorem confirmed_update (traced : network.IsTraced group) {reply : Option Message} {final : Chat}
    (replies : group.Replies party (network.confirmed party) reply) (other : Fin n) :
    (network.update party (reply, final)).confirmed other =
      if other = party then insert party (network.confirmed party)
      else network.confirmed other := by
  ext third
  simp only [confirmed, Set.mem_ofPred_eq, traced.attested_update replies,
    traced.delivered_update]
  by_cases same : other = party
  · simp only [same, true_or, and_true, if_true, Set.mem_insert_iff, Set.mem_ofPred_eq]
    by_cases own : third = party <;> simp [own]
  · simp only [same, false_or, if_false, Set.mem_ofPred_eq]

theorem update (traced : network.IsTraced group) {reply : Option Message} {final : Chat}
    (replies : group.Replies party (network.confirmed party) reply) :
    (network.update party (reply, final)).IsTraced group := by
  by_cases already : party ∈ network.confirmed party
  · rw [replies.silent already]
    refine ⟨?_, ?_, ?_⟩
    · rw [sent_update_none]
      exact traced.attests
    · rw [sent_update_none]
      exact traced.once
    · rw [sent_update_none]
      exact traced.foreign
  · obtain ⟨message, rfl, attestation⟩ := replies.attests already
    rw [traced.mem_confirmed_self] at already
    refine ⟨fun sender other present => ?_, ?_, fun index receiver present => ?_⟩
    · rw [sent_update_some, List.mem_append, List.mem_singleton] at present
      obtain old | new := present
      · exact traced.attests sender other old
      · obtain ⟨rfl, rfl⟩ := Prod.mk.inj new
        exact attestation
    · rw [sent_update_some, List.map_append, List.map_singleton, ← List.concat_eq_append,
        List.nodup_concat]
      refine ⟨fun present => already ?_, traced.once⟩
      obtain ⟨⟨_, other⟩, sent, rfl⟩ := List.mem_map.mp present
      exact ⟨other, sent⟩
    · obtain ⟨sender, other, located, foreign⟩ := traced.foreign index receiver present
      have inside := (List.getElem?_eq_some_iff.mp located).1
      exact ⟨sender, other, (List.getElem?_append_left inside).trans located, foreign⟩

end IsTraced

end Network

end GroupChat

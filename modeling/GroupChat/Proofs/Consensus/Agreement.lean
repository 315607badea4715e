import GroupChat.Proofs.Consensus.Network

/-!
A group that holds one table and one session comes to agree. Each chat has confirmed the parties
whose attestations its party has seen, so it turns encrypted with the last of them; no step on the
way there fails.
-/
namespace GroupChat.Network

variable {n : Nat} {network : Network n} {group : ChatGroup n} {party sender receiver : Fin n}

/-- What holds in every network that a group comes to. -/
structure Invariant (group : ChatGroup n) (network : Network n) : Prop where
  traced : network.IsTraced group
  confirms : ∀ party, group.Confirms party (network.chats party) (network.confirmed party)

structure IsOpening (group : ChatGroup n) (network : Network n) : Prop where
  opens : ∀ party, group.Opens party (network.chats party)
  sent : network.sent = []
  delivered : network.delivered = []

theorem IsOpening.invariant (opening : network.IsOpening group) : network.Invariant group where
  traced := by
    refine ⟨?_, ?_, ?_⟩
    all_goals simp [opening.sent, opening.delivered]
  confirms party := by
    have nobody : network.confirmed party = ∅ := by
      simp [confirmed, Attested, Delivered, opening.sent]
    rw [nobody]
    exact (opening.opens party).confirms

namespace Invariant

theorem update (traced : network.IsTraced group) {reply : Option Message} {final : Chat}
    (replies : group.Replies party (network.confirmed party) reply)
    (confirms : group.Confirms party final (insert party (network.confirmed party)))
    (others : ∀ other, other ≠ party →
      group.Confirms other (network.chats other) (network.confirmed other)) :
    (network.update party (reply, final)).Invariant group where
  traced := traced.update replies
  confirms other := by
    rw [traced.confirmed_update replies]
    by_cases same : other = party
    · subst same
      rwa [chats_update_self, if_pos rfl]
    · rw [chats_update_of_ne network _ same, if_neg same]
      exact others other same

theorem isFinished_iff (network : Network n) (party : Fin n) :
    network.IsFinished party ↔ (network.chats party).progress.stage = .finished := by
  rw [IsFinished, Chat.progress]
  cases (network.chats party).tally with
  | none => simp [Tally.fresh]
  | some tally => simp

theorem start (invariant : network.Invariant group) (allowed : network.Allows (.start party)) :
    ∃ next, network.step? (.start party) = some next ∧ next.Invariant group ∧
      ∀ sender receiver, next.Delivered sender receiver ↔ network.Delivered sender receiver := by
  have unfinished : (network.chats party).progress.stage ≠ .finished := fun finished =>
    allowed ((isFinished_iff network party).mpr finished)
  obtain ⟨reply, final, started, confirms, replies⟩ :=
    (invariant.confirms party).start unfinished
  refine ⟨network.update party (reply, final), ?_, ?_, ?_⟩
  · simp only [step?, Attesting.run?, started]
    rfl
  · exact .update invariant.traced replies confirms fun other _ => invariant.confirms other
  · exact invariant.traced.delivered_update (reply, final)

theorem deliver (invariant : network.Invariant group) {index : Nat} {message : Message}
    (located : network.sent[index]? = some (sender, message)) (foreign : sender ≠ receiver)
    (fresh : (index, receiver) ∉ network.delivered) :
    ∃ next, network.step? (.deliver index receiver) = some next ∧ next.Invariant group ∧
      ∀ other third, next.Delivered other third ↔
        (other = sender ∧ third = receiver) ∨ network.Delivered other third := by
  have attestation := invariant.traced.attests sender message (List.mem_of_getElem? located)
  have missing : sender ∉ network.confirmed receiver := by
    intro present
    obtain ⟨same, _⟩ | ⟨position, other, found, delivered⟩ := present
    · exact foreign same
    · have same := invariant.traced.index_eq found located
      exact fresh (same ▸ delivered)
  have traced := invariant.traced.addDelivery located foreign
  obtain ⟨reply, final, received, confirms, replies⟩ :=
    (invariant.confirms receiver).receive attestation missing
  have seen : (network.addDelivery index receiver).confirmed receiver =
      insert sender (network.confirmed receiver) := by
    rw [confirmed_addDelivery located, if_pos rfl]
  rw [← seen] at confirms replies
  refine ⟨(network.addDelivery index receiver).update receiver (reply, final), ?_, ?_, ?_⟩
  · obtain ⟨encoded, decoded⟩ := attestation.crosses
    simp [step?, located, Chat.accept?, encoded, decoded, Except.toOption, Attesting.run?, received]
  · refine .update traced replies confirms fun other apart => ?_
    rw [confirmed_addDelivery located, if_neg apart]
    exact invariant.confirms other
  · intro other third
    rw [traced.delivered_update, delivered_addDelivery located]

/-- An event that is allowed succeeds, and delivers what it says and nothing else. -/
theorem step (invariant : network.Invariant group) {event : NetworkEvent n}
    (allowed : network.Allows event) :
    ∃ next, network.step? event = some next ∧ next.Invariant group ∧
      ∀ sender receiver, next.Delivered sender receiver ↔
        (∃ index message, event = .deliver index receiver ∧
          network.sent[index]? = some (sender, message)) ∨ network.Delivered sender receiver := by
  cases event with
  | start party =>
    obtain ⟨next, stepped, kept, delivered⟩ := invariant.start allowed
    refine ⟨next, stepped, kept, fun sender receiver => ?_⟩
    rw [delivered]
    simp
  | deliver index receiver =>
    obtain ⟨fresh, sender, message, located, foreign⟩ := allowed
    obtain ⟨next, stepped, kept, delivered⟩ := invariant.deliver located foreign fresh
    refine ⟨next, stepped, kept, fun other third => ?_⟩
    rw [delivered]
    refine or_congr_left ⟨fun new => ?_, fun new => ?_⟩
    · obtain ⟨rfl, rfl⟩ := new
      exact ⟨index, message, rfl, located⟩
    · obtain ⟨position, carried, same, found⟩ := new
      obtain ⟨rfl, rfl⟩ := NetworkEvent.deliver.inj same
      rw [located, Option.some.injEq, Prod.mk.injEq] at found
      exact ⟨found.1.symm, rfl⟩

theorem runs {start : Network n} (invariant : start.Invariant group) (run : start.Runs network) :
    network.Invariant group := by
  induction run with
  | refl => exact invariant
  | tail _ step ih =>
    obtain ⟨event, allowed, stepped⟩ := step
    obtain ⟨next, same, kept, _⟩ := ih.step allowed
    rw [stepped, Option.some.injEq] at same
    exact same ▸ kept

theorem all_confirmed_iff (invariant : network.Invariant group) (party : Fin n) :
    (∀ other, other ∈ network.confirmed party) ↔
      ∀ other, other ≠ party → network.Delivered other party := by
  refine ⟨fun all other apart => ?_, fun all other => ?_⟩
  · exact (all other).resolve_left fun own => apart own.1
  · by_cases own : other = party
    · obtain ⟨third, apart⟩ := group.exists_other party
      exact own ▸ (invariant.confirms party).first third (.inr (all third apart))
    · exact .inr (all other own)

theorem isFinished_iff_delivered (invariant : network.Invariant group) (party : Fin n) :
    network.IsFinished party ↔ ∀ other, other ≠ party → network.Delivered other party := by
  rw [isFinished_iff, (invariant.confirms party).finished, invariant.all_confirmed_iff]

theorem isEncrypted_iff (invariant : network.Invariant group) (party : Fin n) :
    network.IsEncrypted party ↔ network.IsFinished party := by
  rw [isFinished_iff, IsEncrypted, (invariant.confirms party).finished,
    (invariant.confirms party).encrypted]

theorem finishes_iff (invariant : network.Invariant group) {event : NetworkEvent n}
    {next : Network n} (allowed : network.Allows event) (stepped : network.step? event = some next)
    (unfinished : ¬ network.IsFinished party) :
    next.IsFinished party ↔ ∃ index sender message, event = .deliver index party ∧
      network.sent[index]? = some (sender, message) ∧
      ∀ other, other ≠ party → other ≠ sender → network.Delivered other party := by
  obtain ⟨result, same, kept, delivered⟩ := invariant.step allowed
  rw [stepped, Option.some.injEq] at same
  subst same
  rw [isFinished_iff_delivered invariant] at unfinished
  rw [isFinished_iff_delivered kept]
  refine ⟨fun all => ?_, fun last => ?_⟩
  · obtain ⟨sender, lacking⟩ := not_forall.mp unfinished
    obtain ⟨apart, absent⟩ := Classical.not_imp.mp lacking
    obtain ⟨index, message, rfl, located⟩ :=
      ((delivered ..).mp (all sender apart)).resolve_right absent
    refine ⟨index, sender, message, rfl, located, fun other foreign distinct => ?_⟩
    obtain ⟨_, _, same, found⟩ | before := (delivered ..).mp (all other foreign)
    · obtain ⟨rfl, _⟩ := NetworkEvent.deliver.inj same
      rw [located, Option.some.injEq, Prod.mk.injEq] at found
      exact absurd found.1.symm distinct
    · exact before
  · obtain ⟨index, sender, message, rfl, located, others⟩ := last
    intro other apart
    by_cases same : other = sender
    · exact (delivered ..).mpr (.inl ⟨index, message, rfl, same ▸ located⟩)
    · exact (delivered ..).mpr (.inr (others other apart same))

theorem concludes (invariant : network.Invariant group) (finished : network.IsFinished party) :
    (network.chats party).tally = some ⟨List.replicate n true, n, .finished⟩ := by
  obtain ⟨tally, begun, stage⟩ := Option.map_eq_some_iff.mp finished
  have progress : (network.chats party).progress = tally := by
    rw [Chat.progress, begun, Option.getD_some]
  have records := (invariant.confirms party).records
  rw [isFinished_iff, (invariant.confirms party).finished] at finished
  have complete := records.isComplete_iff.mpr finished
  rw [progress] at records complete
  rw [begun, records.eq_of_isComplete complete, stage]

end Invariant

/-- A group that holds one table and one session comes to agree, whatever the order in which parties
start and attestations are delivered. -/
theorem consensus (group : ChatGroup n) (start network : Network n)
    (opening : start.IsOpening group) (run : start.Runs network) :
    (∀ event, network.Allows event → ∃ next, network.step? event = some next) ∧
    (∀ sender message, (sender, message) ∈ network.sent → group.IsAttestation sender message) ∧
    (network.sent.map Prod.fst).Nodup ∧
    (∀ party, (network.IsFinished party ↔
        ∀ other, other ≠ party → network.Delivered other party) ∧
      (network.IsEncrypted party ↔ network.IsFinished party)) ∧
    (∀ event next, network.Allows event → network.step? event = some next →
      ∀ party, ¬ network.IsFinished party →
        (next.IsFinished party ∧ next.IsEncrypted party ↔
          ∃ index sender message, event = .deliver index party ∧
            network.sent[index]? = some (sender, message) ∧
            ∀ other, other ≠ party → other ≠ sender → network.Delivered other party)) ∧
    ((∀ party, (network.chats party).tally.isSome) →
      (∀ index sender message receiver, network.sent[index]? = some (sender, message) →
        receiver ≠ sender → (index, receiver) ∈ network.delivered) →
      ∀ party, network.IsEncrypted party ∧
        (network.chats party).tally = some ⟨List.replicate n true, n, .finished⟩) := by
  have invariant := opening.invariant.runs run
  refine ⟨fun event allowed => ?_, invariant.traced.attests, invariant.traced.once,
    fun party => ⟨invariant.isFinished_iff_delivered party, invariant.isEncrypted_iff party⟩,
    fun event next allowed stepped party unfinished => ?_, fun begun delivered party => ?_⟩
  · obtain ⟨next, stepped, _⟩ := invariant.step allowed
    exact ⟨next, stepped⟩
  · obtain ⟨result, same, kept, _⟩ := invariant.step allowed
    rw [stepped, Option.some.injEq] at same
    subst same
    rw [kept.isEncrypted_iff, and_self]
    exact invariant.finishes_iff allowed stepped unfinished
  · have finished : network.IsFinished party := by
      refine (invariant.isFinished_iff_delivered party).mpr fun other apart => ?_
      have present := ((invariant.confirms other).begun).mp (begun other)
      obtain ⟨message, sent⟩ := (invariant.traced.mem_confirmed_self other).mp present
      obtain ⟨index, located⟩ := List.mem_iff_getElem?.mp sent
      exact ⟨index, message, located, delivered index other message party located apart.symm⟩
    exact ⟨(invariant.isEncrypted_iff party).mpr finished, invariant.concludes finished⟩

def pair : ChatGroup 2 where
  name party := if party = 0 then "alice" else "bob"
  key party := if party = 0 then .zero _ else ⟨List.replicate 32 1, rfl⟩
  sessionId := .zero _
  distinct := by decide
  several := Nat.le_refl 2

def pairNetwork : Network 2 where
  chats party := {
    settings := .default
    name := pair.name party
    sessionId := some pair.sessionId
    roster := .ofParticipants
      (if party = 0 then pair.participants else pair.participants.reverse)
    tally := none
    phase := .plaintext
  }
  sent := []
  delivered := []

theorem pairNetwork_isOpening : pairNetwork.IsOpening pair where
  opens party := {
    name := rfl
    sessionId := rfl
    table := by
      refine ⟨_, rfl, ?_⟩
      split
      · exact .refl _
      · exact (List.reverse_perm pair.participants).map _
    tally := rfl
    phase := Phase.noConfusion
  }
  sent := rfl
  delivered := rfl

theorem consensus_pair :
    ∃ started next, pairNetwork.step? (.start 0) = some started ∧
      started.step? (.deliver 0 1) = some next ∧ next.IsFinished 1 ∧ next.IsEncrypted 1 := by
  have allowed : pairNetwork.Allows (.start 0) := by
    simp [Allows, IsFinished, pairNetwork]
  have sent : (pairNetwork.step? (.start 0)).map (fun next => next.sent.map Prod.fst) =
      some [0] := by decide +kernel
  have delivered : (pairNetwork.step? (.start 0)).map delivered = some [] := by decide +kernel
  obtain ⟨succeeds, _⟩ := consensus pair pairNetwork pairNetwork pairNetwork_isOpening .refl
  obtain ⟨started, first⟩ := succeeds (.start 0) allowed
  rw [first, Option.map_some, Option.some.injEq] at sent delivered
  have run : pairNetwork.Runs started := .single ⟨.start 0, allowed, first⟩
  obtain ⟨succeeds, _, _, finished, turns, _⟩ :=
    consensus pair pairNetwork started pairNetwork_isOpening run
  obtain ⟨⟨_, message⟩, others, sent, rfl, _⟩ := List.map_eq_cons_iff.mp sent
  have located : started.sent[0]? = some (0, message) := by simp [sent]
  have deliverable : started.Allows (.deliver 0 1) :=
    ⟨by simp [delivered], 0, message, located, by decide⟩
  obtain ⟨next, second⟩ := succeeds (.deliver 0 1) deliverable
  have waiting : ¬ started.IsFinished 1 := fun done => by
    obtain ⟨_, _, _, present⟩ := (finished 1).1.mp done 0 (by decide)
    simp [delivered] at present
  refine ⟨started, next, first, second, (turns _ _ deliverable second 1 waiting).mpr ?_⟩
  refine ⟨0, 0, message, rfl, located, fun other apart distinct => ?_⟩
  omega

end GroupChat.Network

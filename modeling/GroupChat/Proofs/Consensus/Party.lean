import GroupChat.Proofs.Consensus.Group
import Mathlib.Data.Set.Insert

/-!
One party of a group: which parties its chat has confirmed, and what the two steps of attestation
add to them. A party confirms itself when it gives out its attestation, before any other.
-/
namespace GroupChat.ChatGroup

variable {n : Nat} {group : ChatGroup n} {party other : Fin n} {chat : Chat} {tally : Tally}
variable {confirmed : Set (Fin n)}

structure Records (group : ChatGroup n) (tally : Tally) (confirmed : Set (Fin n)) : Prop where
  size : tally.size = n
  exact : tally.IsExact
  marked : ∀ other, tally.isMarked (group.position other) ↔ other ∈ confirmed

namespace Records

theorem fresh (group : ChatGroup n) : group.Records (.fresh n) ∅ where
  size := Tally.size_fresh n
  exact := Tally.isExact_fresh n
  marked other := by simp [Tally.isMarked_fresh]

theorem position_lt (records : group.Records tally confirmed) (other : Fin n) :
    group.position other < tally.size := by
  rw [records.size]
  exact group.position_lt other

theorem insert {changed : Tally} (records : group.Records tally confirmed)
    (marks : changed.marks = tally.marks.set (group.position other) true)
    (exact : changed.IsExact) : group.Records changed (insert other confirmed) where
  size := by
    rw [Tally.size, marks, List.length_set]
    exact records.size
  exact := exact
  marked third := by
    rw [Tally.isMarked_of_marks (records.position_lt other) marks, Set.mem_insert_iff]
    by_cases same : third = other
    · simp [same]
    · have apart : group.position third ≠ group.position other := fun equal =>
        same (group.position_injective equal)
      rw [if_neg apart, records.marked third, or_iff_right same]

theorem mark (records : group.Records tally confirmed) (other : Fin n) :
    group.Records (tally.mark _ (records.position_lt other)) (Insert.insert other confirmed) :=
  records.insert (Tally.marks_mark ..) (records.exact.mark _)

theorem judge (records : group.Records tally confirmed) (other : Fin n) :
    group.Records (tally.judge _ (records.position_lt other) true)
      (Insert.insert other confirmed) :=
  records.insert (Tally.marks_judge ..) (records.exact.judge _ true)

theorem withStage (records : group.Records tally confirmed) (stage : Stage) :
    group.Records { tally with stage } confirmed :=
  ⟨records.size, records.exact, records.marked⟩

theorem isComplete_iff (records : group.Records tally confirmed) :
    tally.isComplete ↔ ∀ other, other ∈ confirmed := by
  rw [records.exact.isComplete_iff]
  refine ⟨fun all other => ?_, fun all position inRange => ?_⟩
  · exact (records.marked other).mp (all _ (records.position_lt other))
  · rw [records.size] at inRange
    obtain ⟨other, rfl⟩ := group.exists_position inRange
    exact (records.marked other).mpr (all other)

theorem eq_of_isComplete (records : group.Records tally confirmed) (complete : tally.isComplete) :
    tally = ⟨List.replicate n true, n, tally.stage⟩ := by
  have full : tally.count = tally.size := of_decide_eq_true complete
  have count : tally.count = n := full.trans records.size
  have all := List.count_eq_length.mp (records.exact.symm.trans full)
  have marks : tally.marks = List.replicate n true :=
    List.eq_replicate_iff.mpr ⟨records.size, fun mark member => (all mark member).symm⟩
  obtain ⟨_, _, _⟩ := tally
  exact congrArg₂ (Tally.mk · · _) marks count

end Records

structure Confirms (group : ChatGroup n) (party : Fin n) (chat : Chat) (confirmed : Set (Fin n)) :
    Prop where
  member : group.IsMember party chat
  records : group.Records chat.progress confirmed
  begun : chat.tally.isSome ↔ party ∈ confirmed
  first : ∀ other ∈ confirmed, party ∈ confirmed
  finished : chat.progress.stage = .finished ↔ ∀ other, other ∈ confirmed
  encrypted : chat.phase = .encrypted ↔ ∀ other, other ∈ confirmed

theorem Opens.confirms (opens : group.Opens party chat) : group.Confirms party chat ∅ := by
  have member := opens.isMember
  have progress : chat.progress = .fresh n := by
    rw [Chat.progress, opens.tally, Option.getD_none, member.size]
  refine ⟨member, ?_, ?_, ?_, ?_, ?_⟩
  · rw [progress]
    exact .fresh group
  · simp [opens.tally]
  · intro other absent
    exact absent.elim
  · rw [progress]
    exact ⟨fun finished => Stage.noConfusion finished, fun all => (all party).elim⟩
  · exact ⟨fun encrypted => absurd encrypted opens.phase, fun all => (all party).elim⟩

/-- What a party gives out: its attestation if it has not confirmed itself yet. -/
structure Replies (group : ChatGroup n) (party : Fin n) (confirmed : Set (Fin n))
    (reply : Option Message) : Prop where
  silent : party ∈ confirmed → reply = none
  attests : party ∉ confirmed → ∃ message, reply = some message ∧ group.IsAttestation party message

theorem announcement_eq_ok (member : group.IsMember party chat)
    (records : group.Records chat.progress confirmed) :
    ∃ reply, chat.announcement (group.position party) = .ok reply ∧
      group.Replies party confirmed reply := by
  have marked := records.marked party
  by_cases already : party ∈ confirmed
  · refine ⟨none, ?_, fun _ => rfl, fun absent => absurd already absent⟩
    rw [Chat.announcement, if_pos (marked.mpr already)]
  · obtain ⟨message, attested, attestation⟩ := member.attestation
    refine ⟨some message, ?_, fun present => absurd present already,
      fun _ => ⟨message, rfl, attestation⟩⟩
    rw [Chat.announcement, if_neg fun present => already (marked.mp present), attested]
    rfl

theorem exists_other (group : ChatGroup n) (party : Fin n) : ∃ other : Fin n, other ≠ party :=
  have := Fin.nontrivial_iff_two_le.mpr group.several
  exists_ne party

namespace Confirms

theorem start (confirms : group.Confirms party chat confirmed)
    (unfinished : chat.progress.stage ≠ .finished) :
    ∃ reply final, Attesting.start chat = .ok reply final ∧
      group.Confirms party final (insert party confirmed) ∧
      group.Replies party confirmed reply := by
  obtain ⟨reply, announced, replies⟩ := announcement_eq_ok confirms.member confirms.records
  have missing : ¬ ∀ other, other ∈ insert party confirmed := by
    by_cases already : party ∈ confirmed
    · rw [Set.insert_eq_of_mem already, ← confirms.finished]
      exact unfinished
    · have nobody : confirmed = ∅ := Set.eq_empty_of_forall_notMem fun other present =>
        already (confirms.first other present)
      obtain ⟨other, apart⟩ := exists_other group party
      exact fun all => apart (by simpa [nobody] using all other)
  refine ⟨reply, _, Attesting.start_eq_ok.mpr ⟨_, confirms.records.position_lt party,
    confirms.member.ownPosition?, announced, rfl⟩, ?_, replies⟩
  refine ⟨confirms.member.withTally _, (confirms.records.mark party).withStage _, ?_, ?_, ?_, ?_⟩
  · exact ⟨fun _ => Set.mem_insert party confirmed, fun _ => rfl⟩
  · exact fun _ _ => Set.mem_insert party confirmed
  · exact ⟨fun finished => Stage.noConfusion finished, fun all => absurd all missing⟩
  · refine ⟨fun encrypted => ?_, fun all => absurd all missing⟩
    exact absurd (confirms.finished.mpr (confirms.encrypted.mp encrypted)) unfinished

theorem settled (member : group.IsMember party chat) (records : group.Records tally confirmed)
    (awaiting : tally.stage = .awaiting) (plain : chat.phase ≠ .encrypted)
    (own : party ∈ confirmed) : group.Confirms party (chat.withTally tally).settled confirmed := by
  have complete := records.isComplete_iff
  by_cases all : ∀ other, other ∈ confirmed
  · rw [Chat.settled, Chat.progress_withTally, if_pos (complete.mpr all)]
    exact {
      member := ⟨member.name, member.sessionId, member.cards, member.size⟩
      records := records.withStage _
      begun := ⟨fun _ => own, fun _ => rfl⟩
      first := fun _ _ => own
      finished := ⟨fun _ => all, fun _ => rfl⟩
      encrypted := ⟨fun _ => all, fun _ => rfl⟩
    }
  · rw [Chat.settled, Chat.progress_withTally, if_neg fun done => all (complete.mp done)]
    exact {
      member := member.withTally _
      records
      begun := ⟨fun _ => own, fun _ => rfl⟩
      first := fun _ _ => own
      finished := ⟨fun finished => Stage.noConfusion (awaiting.symm.trans finished),
        fun done => absurd done all⟩
      encrypted := ⟨fun encrypted => absurd encrypted plain, fun done => absurd done all⟩
    }

theorem receive (confirms : group.Confirms party chat confirmed) {sender : Fin n}
    {message : Message} (attestation : group.IsAttestation sender message)
    (missing : sender ∉ confirmed) :
    ∃ reply final, Attesting.receive message chat = .ok reply final ∧
      group.Confirms party final (insert party (insert sender confirmed)) ∧
      group.Replies party (insert sender confirmed) reply := by
  have incomplete : ¬ ∀ other, other ∈ confirmed := fun all => missing (all sender)
  have awaiting : chat.progress.stage = .awaiting := by
    cases stage : chat.progress.stage with
    | awaiting => rfl
    | finished => exact absurd (confirms.finished.mp stage) incomplete
  have located : chat.roster.positionOf? message.sender = some (group.position sender) := by
    rw [attestation.sender]
    exact confirms.member.positionOf? sender
  have judged := confirms.records.judge sender
  obtain ⟨reply, announced, replies⟩ :=
    announcement_eq_ok (confirms.member.withTally (chat.progress.judge _ _ true)) judged
  refine ⟨reply, _, Attesting.receive_eq_ok.mpr ⟨_, _, _, _, attestation.payload, awaiting, located,
    confirms.member.ownPosition?, confirms.member.agrees, confirms.records.position_lt sender,
    confirms.records.position_lt party, announced, rfl⟩, ?_, replies⟩
  refine settled confirms.member (judged.mark party) ?_ (fun encrypted => ?_)
    (Set.mem_insert party _)
  · rw [Tally.stage_mark, Tally.stage_judge, awaiting]
  · exact incomplete (confirms.encrypted.mp encrypted)

end Confirms

end GroupChat.ChatGroup

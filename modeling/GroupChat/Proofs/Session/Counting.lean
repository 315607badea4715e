import GroupChat.Proofs.Attestation.Faults
import GroupChat.Proofs.Session.Calls

/-!
The count of an attestation. Whatever is asked of a chat, in whatever order, the count stays the
number of marks. So no call comes upon a fault in its accesses to the marks, and the chat turns
encrypted only when every mark is set.
-/
namespace GroupChat.Chat

variable {chat final : Chat} {call : Call}

def IsCounted (chat : Chat) : Prop := ∀ tally, chat.tally = some tally → tally.IsExact

namespace IsCounted

theorem progress (counted : chat.IsCounted) : chat.progress.IsExact := by
  rw [Chat.progress]
  cases begun : chat.tally with
  | none => exact Tally.isExact_fresh _
  | some tally => exact counted tally begun

theorem of_tally_eq {tally : Tally} (exact : tally.IsExact) (held : chat.tally = some tally) :
    chat.IsCounted := by
  intro other same
  rw [held, Option.some.injEq] at same
  exact same ▸ exact

theorem becomes (counted : chat.IsCounted) (becomes : chat.Becomes call final) :
    final.IsCounted := by
  have exact := counted.progress
  cases becomes with
  | arranged => exact counted
  | joined => exact counted
  | dropped => exact fun tally absent => nomatch absent
  | renewed => exact of_tally_eq (Tally.isExact_fresh _) rfl
  | kept => exact counted
  | begun => exact of_tally_eq exact rfl
  | started started =>
    obtain ⟨ours, inRange, _, _, rfl⟩ := Attesting.start_eq_ok.mp started
    exact of_tally_eq ((exact.mark inRange).withStage _) rfl
  | checked checked =>
    obtain ⟨inRange, _, rfl⟩ := Attesting.check_eq_ok.mp checked
    exact of_tally_eq (exact.judge inRange _) rfl
  | refused _ inRange => exact of_tally_eq (exact.judge inRange false) rfl
  | received received =>
    obtain ⟨_, _, theirs, ours, _, _, _, _, _, theirsInRange, oursInRange, _, rfl⟩ :=
      Attesting.receive_eq_ok.mp received
    have judged := exact.judge theirsInRange true
    exact of_tally_eq ((judged.mark (by simpa using oursInRange)).withStage _) (tally_settled _)

end IsCounted

theorem Reachable.isCounted (reachable : chat.Reachable) : chat.IsCounted :=
  reachable.induct (fun _ _ _ absent => nomatch absent) fun counted becomes =>
    counted.becomes becomes

theorem count_le_size {tally : Tally} (exact : tally.IsExact) : tally.count ≤ tally.size := by
  rw [exact]
  exact List.count_le_length

theorem Becomes.encrypted (becomes : chat.Becomes call final) (plain : chat.phase ≠ .encrypted)
    (turned : final.phase = .encrypted) :
    ∃ message reply tally, call = .receive message ∧
      Attesting.receive message chat = .ok reply final ∧ final.tally = some tally ∧
      tally.stage = .finished ∧ tally.isComplete := by
  cases becomes with
  | dropped => exact nomatch turned
  | received received =>
    obtain ⟨_, _, theirs, ours, _, _, _, _, _, theirsInRange, oursInRange, _, rfl⟩ :=
      Attesting.receive_eq_ok.mp received
    rw [phase_settled] at turned
    split at turned
    · rename_i complete
      refine ⟨_, _, _, rfl, received, tally_settled _, ?_, complete⟩
      rw [if_pos complete]
    · exact absurd turned plain
  | started started =>
    obtain ⟨_, _, _, _, rfl⟩ := Attesting.start_eq_ok.mp started
    exact absurd turned plain
  | checked checked =>
    obtain ⟨_, _, rfl⟩ := Attesting.check_eq_ok.mp checked
    exact absurd turned plain
  | _ => exact absurd turned plain

/-- Whatever has been asked of a chat: the count of its attestation is the number of its marks, no
access to the marks is a fault, and only the step that sets the last mark turns the chat encrypted. -/
theorem marks_counted (settings : ChatSettings) (name : String) (calls : List Call) :
    let chat := (Chat.new settings name).afterAll calls
    (∀ tally, chat.tally = some tally →
      tally.count = tally.marks.count true ∧ tally.count ≤ tally.size) ∧
    (∀ sessionId fingerprint position, Exposed.check sessionId fingerprint position chat =
      Exposed.ofStep (Attesting.check sessionId fingerprint position) chat) ∧
    Exposed.start chat = Exposed.ofStep Attesting.start chat ∧
    (∀ message, Exposed.receive message chat =
      Exposed.ofStep (Attesting.receive message) chat) ∧
    ∀ call, chat.phase ≠ .encrypted → (chat.after call).phase = .encrypted →
      ∃ message reply tally, call = .receive message ∧
        Attesting.receive message chat = .ok reply (chat.after call) ∧
        (chat.after call).tally = some tally ∧ tally.stage = .finished ∧
        ∀ mark ∈ tally.marks, mark = true := by
  intro chat
  have reachable : chat.Reachable := ⟨settings, name, calls, rfl⟩
  have counted := reachable.isCounted
  refine ⟨fun tally held => ⟨counted tally held, count_le_size (counted tally held)⟩,
    Exposed.check_eq counted.progress, Exposed.start_eq chat, Exposed.receive_eq counted.progress,
    fun call plain turned => ?_⟩
  have becomes := chat.becomes call
  obtain ⟨message, reply, tally, rfl, received, held, finished, complete⟩ :=
    becomes.encrypted plain turned
  have exact := counted.becomes becomes tally held
  refine ⟨message, reply, tally, rfl, received, held, finished, fun mark member => ?_⟩
  have full : tally.count = tally.size := of_decide_eq_true complete
  exact (List.count_eq_length.mp (exact.symm.trans full) mark member).symm

theorem marks_counted_pair :
    let chat := assembled "alice" [.alice, .bob] (.zero _)
    let final := chat.after (.receive (attestationOfBob [.alice, .bob]))
    chat.phase ≠ .encrypted ∧ final.phase = .encrypted ∧
      ∃ tally, final.tally = some tally ∧ tally.stage = .finished ∧
        ∀ mark ∈ tally.marks, mark = true := by
  intro chat final
  have plain : chat.phase ≠ .encrypted := by decide +kernel
  have turned : final.phase = .encrypted := by decide +kernel
  obtain ⟨_, _, _, _, turns⟩ :=
    marks_counted .default "alice" (assembly [.alice, .bob] (.zero _))
  obtain ⟨_, _, tally, _, _, held, finished, all⟩ := turns _ plain turned
  exact ⟨plain, turned, tally, held, finished, all⟩

end GroupChat.Chat

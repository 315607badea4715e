import GroupChat.Proofs.Session.Counting

/-!
What becomes of a message that a chat receives. If nothing is to be said against it, the marks of its
sender and our own are set, our attestation goes out unless our mark was set before, and the last mark
turns the chat encrypted. Otherwise it is refused for the first objection.
-/
namespace GroupChat

theorem Tally.IsExact.isComplete_eq {tally : Tally} (exact : tally.IsExact) :
    tally.isComplete = tally.marks.all id := by
  rw [Bool.eq_iff_iff, isComplete, decide_eq_true_iff, exact, size, List.count_eq_length,
    List.all_eq_true]
  simp [eq_comm]

namespace Chat

variable {chat final : Chat} {message : Message} {reply : Option Message}
variable {sessionId : SessionId} {fingerprint : Digest} {theirs ours : Nat}

/-- The chat once the attestation of one position has been taken, and given out from another. -/
def marking (chat : Chat) (theirs ours : Nat) : Chat :=
  let marks := (chat.progress.marks.set theirs true).set ours true
  let full := marks.all id
  { chat with
    tally := some
      { marks
        count := marks.count true
        stage := if full then .finished else chat.progress.stage }
    phase := if full then .encrypted else chat.phase }

def replying (chat : Chat) (sessionId : SessionId) (fingerprint : Digest) (theirs ours : Nat) :
    Option Message :=
  if ours = theirs ∨ chat.progress.isMarked ours then none
  else some (chat.attesting sessionId fingerprint)

theorem settled_of_isExact {tally : Tally} (exact : tally.IsExact) :
    (chat.withTally tally).settled =
      let full := tally.marks.all id
      { chat with
        tally := some
          { tally with
            count := tally.marks.count true
            stage := if full then .finished else tally.stage }
        phase := if full then .encrypted else chat.phase } := by
  rw [settled, progress_withTally, exact.isComplete_eq, ← exact]
  cases tally.marks.all id <;> rfl

theorem settled_eq_marking (exact : chat.progress.IsExact)
    (theirsInRange : theirs < chat.progress.size)
    (oursInRange : ours < (chat.progress.judge theirs theirsInRange true).size) :
    (chat.withTally ((chat.progress.judge theirs theirsInRange true).mark ours oursInRange)).settled =
      chat.marking theirs ours := by
  rw [settled_of_isExact ((exact.judge theirsInRange true).mark oursInRange), Tally.marks_mark,
    Tally.marks_judge, Tally.stage_mark, Tally.stage_judge]
  rfl

theorem announcement_eq_replying (theirsInRange : theirs < chat.progress.size)
    (session : chat.sessionId = some sessionId) (table : chat.roster.fingerprint = .ok fingerprint) :
    (chat.withTally (chat.progress.judge theirs theirsInRange true)).announcement ours =
      .ok (chat.replying sessionId fingerprint theirs ours) := by
  have attests : (chat.withTally (chat.progress.judge theirs theirsInRange true)).attestation =
      .ok (chat.attesting sessionId fingerprint) :=
    attestation_eq_ok.mpr ⟨sessionId, fingerprint, session, table, rfl⟩
  rw [announcement, replying, attests, progress_withTally, Tally.isMarked_judge]
  by_cases same : ours = theirs
  · simp [same]
  · by_cases marked : chat.progress.isMarked ours <;> simp [same, marked, Except.map]

/-- A message that a chat receives is taken if and only if the chat admits it. It is refused if and
only if something is to be said against it, for what is to be said first. -/
theorem receive_exact (reachable : chat.Reachable) (message : Message) :
    (∀ reply final, Attesting.receive message chat = .ok reply final ↔
      ∃ sessionId fingerprint theirs ours,
        chat.Admits message sessionId fingerprint theirs ours ∧
        reply = chat.replying sessionId fingerprint theirs ours ∧
        final = chat.marking theirs ours) ∧
    ∀ error, (∃ final, Attesting.receive message chat = .error error final) ↔
      chat.Refuses message error := by
  have exact := reachable.isCounted.progress
  refine ⟨fun reply final => ?_, fun error => by simp [Attesting.receive_eq_error_iff]⟩
  rw [Attesting.receive_eq_ok_iff_admits]
  refine ⟨fun received => ?_, fun taken => ?_⟩
  · obtain ⟨sessionId, fingerprint, theirs, ours, admits, announced, rfl⟩ := received
    rw [announcement_eq_replying admits.theirsInRange admits.session admits.table] at announced
    exact ⟨sessionId, fingerprint, theirs, ours, admits, (Except.ok.inj announced).symm,
      settled_eq_marking exact admits.theirsInRange _⟩
  · obtain ⟨sessionId, fingerprint, theirs, ours, admits, rfl, rfl⟩ := taken
    exact ⟨sessionId, fingerprint, theirs, ours, admits,
      announcement_eq_replying admits.theirsInRange admits.session admits.table,
      settled_eq_marking exact admits.theirsInRange _⟩

def strangeAttestation : Message :=
  { attestationOfBob [.alice, .bob] with
    sender := "mallory"
    payload := .attest (.filled _ 1) (.zero _) }

theorem receive_exact_pair :
    let chat := assembled "alice" [.alice, .bob] (.zero _)
    let fingerprint := sha512Concat (Roster.keysOn chat.roster.cards)
    chat.Reachable ∧
      Attesting.receive (attestationOfBob [.alice, .bob]) chat =
        .ok (some (chat.attesting (.zero _) fingerprint)) (chat.marking 1 0) ∧
      ∃ final, Attesting.receive strangeAttestation chat =
        .error (.notAParticipant "mallory") final := by
  intro chat fingerprint
  have reachable : chat.Reachable := reachable_assembled ..
  have content : (attestationOfBob [.alice, .bob]).payload = .attest (.zero _) fingerprint := by
    decide +kernel
  have admits := admits_of_pair content (by decide +kernel) Nat.one_lt_two
  have unknown : chat.roster.positionOf? strangeAttestation.sender = none := by decide +kernel
  have clear : chat.IsClear strangeAttestation 2 := .awaiting (.payload rfl) rfl
  refine ⟨reachable, ?_, ?_⟩
  · exact ((receive_exact reachable _).1 _ _).mpr ⟨_, _, 1, 0, admits, by decide +kernel, rfl⟩
  · exact ((receive_exact reachable _).2 _).mpr ⟨2, .unknownSender unknown, clear⟩

end Chat

end GroupChat

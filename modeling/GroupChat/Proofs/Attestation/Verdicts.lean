import GroupChat.Proofs.Attestation.Steps
import GroupChat.Proofs.RosterOrder

/-!
What agreement with a chat means, and what the attestation of a chat says. A chat that agrees with an
attestation can always give out its own.
-/
namespace GroupChat.Chat

variable {chat : Chat} {sessionId : SessionId} {fingerprint : Digest} {message : Message}

def attesting (chat : Chat) (sessionId : SessionId) (fingerprint : Digest) : Message where
  version := chat.settings.version
  senderInstance := chat.settings.ownInstance
  chatInstance := chat.settings.chatInstance
  sender := chat.name
  sessionId := some sessionId
  payload := .attest sessionId fingerprint

theorem agrees_of_sessionId (session : chat.sessionId = some sessionId) :
    chat.agrees sessionId fingerprint =
      chat.roster.fingerprint.map fun ours => decide (ours = fingerprint) := by
  simp only [agrees, session, if_pos]

theorem agrees_of_sessionId_ne {other : SessionId} (session : chat.sessionId = some other)
    (apart : other ≠ sessionId) : chat.agrees sessionId fingerprint = .ok false := by
  simp only [agrees, session, if_neg apart]

theorem agrees_eq_ok {ours : SessionId} {own : Digest} (session : chat.sessionId = some ours)
    (table : chat.roster.fingerprint = .ok own) :
    chat.agrees sessionId fingerprint = .ok (decide (ours = sessionId ∧ own = fingerprint)) := by
  by_cases same : ours = sessionId
  · subst same
    rw [agrees_of_sessionId session, table]
    simp [Except.map]
  · simp [agrees_of_sessionId_ne session same, same]

theorem agrees_eq_ok_true :
    chat.agrees sessionId fingerprint = .ok true ↔
      chat.sessionId = some sessionId ∧ chat.roster.fingerprint = .ok fingerprint := by
  cases session : chat.sessionId with
  | none => simp [agrees, session]
  | some ours =>
    by_cases same : ours = sessionId
    · subst same
      rw [agrees_of_sessionId session]
      cases chat.roster.fingerprint <;> simp [Except.map]
    · simp [agrees_of_sessionId_ne session same, same]

/-- There are two ways to disagree, and the table is the matter only if the session id is not. -/
theorem agrees_eq_ok_false :
    chat.agrees sessionId fingerprint = .ok false ↔
      (∃ own, chat.sessionId = some own ∧ own ≠ sessionId) ∨
        (chat.sessionId = some sessionId ∧
          ∃ own, chat.roster.fingerprint = .ok own ∧ own ≠ fingerprint) := by
  cases session : chat.sessionId with
  | none => simp [agrees, session]
  | some ours =>
    by_cases same : ours = sessionId
    · subst same
      rw [agrees_of_sessionId session]
      cases chat.roster.fingerprint <;> simp [Except.map]
    · simp [agrees_of_sessionId_ne session same, same]

theorem agrees_eq_error {error : AttestationError} :
    chat.agrees sessionId fingerprint = .error error ↔
      (chat.sessionId = none ∧ error = .noSessionId) ∨
        (chat.sessionId = some sessionId ∧ chat.roster.fingerprint = .error error) := by
  cases session : chat.sessionId with
  | none => simp [agrees, session, eq_comm]
  | some ours =>
    by_cases same : ours = sessionId
    · subst same
      rw [agrees_of_sessionId session]
      cases chat.roster.fingerprint <;> simp [Except.map]
    · simp [agrees_of_sessionId_ne session same, same]

theorem attestation_eq_ok :
    chat.attestation = .ok message ↔
      ∃ sessionId fingerprint, chat.sessionId = some sessionId ∧
        chat.roster.fingerprint = .ok fingerprint ∧
        chat.attesting sessionId fingerprint = message := by
  cases session : chat.sessionId with
  | none => simp [attestation, session]
  | some ours =>
    have composed (fingerprint : Digest) : (chat.compose (.attest ours fingerprint)).mapError
        AttestationError.frame = .ok (chat.attesting ours fingerprint) := by
      rw [compose, Message.new, origin, session]
      rfl
    cases table : chat.roster.fingerprint with
    | error cause => simp [attestation, session, table, bind, Except.bind]
    | ok fingerprint =>
      simp [attestation, session, table, composed, bind, Except.bind]

theorem announcement_of_agrees (agreed : chat.agrees sessionId fingerprint = .ok true)
    (tally : Tally) (position : Nat) :
    ∃ reply, (chat.withTally tally).announcement position = .ok reply := by
  obtain ⟨session, table⟩ := agrees_eq_ok_true.mp agreed
  have attests : (chat.withTally tally).attestation = .ok (chat.attesting sessionId fingerprint) :=
    attestation_eq_ok.mpr ⟨sessionId, fingerprint, session, table, rfl⟩
  rw [announcement, attests]
  split
  · exact ⟨none, rfl⟩
  · exact ⟨some _, rfl⟩

theorem announcement_eq_some {position : Nat} :
    chat.announcement position = .ok (some message) ↔
      chat.progress.isMarked position = false ∧ chat.attestation = .ok message := by
  rw [announcement]
  split
  · simp_all
  · cases chat.attestation <;> simp_all [Except.map]

/-- One of the calls by which a chat attests gives out a message. -/
def Emits (chat : Chat) (message : Message) : Prop :=
  ∃ final, Attesting.start chat = .ok (some message) final ∨
    ∃ incoming, Attesting.receive incoming chat = .ok (some message) final

theorem Emits.attestation (emits : chat.Emits message) : chat.attestation = .ok message := by
  obtain ⟨final, started | ⟨incoming, received⟩⟩ := emits
  · obtain ⟨_, _, _, announced, _⟩ := Attesting.start_eq_ok.mp started
    exact (announcement_eq_some.mp announced).2
  · obtain ⟨_, _, _, _, _, _, _, _, _, _, _, announced, _⟩ := Attesting.receive_eq_ok.mp received
    exact (announcement_eq_some.mp announced).2

theorem announcement_eq_none {position : Nat} :
    chat.announcement position = .ok none ↔ chat.progress.isMarked position := by
  rw [announcement]
  split
  · simp_all
  · cases chat.attestation <;> simp_all [Except.map]

end GroupChat.Chat

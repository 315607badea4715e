import GroupChat.Proofs.Session.Calls

/-!
Messages that come before their time. A message from somebody who is not in the table is refused, but
an attestation has begun with it, among those who are in the table then. If the table has another size
by the time that the attestation would have begun otherwise, the chat is not what it would have been.
If it has the same size, nobody can tell that the message has come.
-/
namespace GroupChat

def Call.Convenes : Call → Prop
  | .insert _ | .erase _ | .setSession _ | .start | .receive _ => True
  | _ => False

theorem Call.Convenes.lasting {call : Call} (convenes : call.Convenes) : ¬ call.Renews := by
  rintro (rfl | rfl) <;> exact convenes

namespace Attesting

variable {chat : Chat} {message : Message}

theorem start_withTally (chat : Chat) : start (chat.withTally chat.progress) = start chat :=
  bind_congr_state rfl

theorem receive_withTally {sessionId : SessionId} {fingerprint : Digest}
    (payload : message.payload = .attest sessionId fingerprint) (chat : Chat) :
    receive message (chat.withTally chat.progress) = receive message chat := by
  simp only [receive, payload]
  exact bind_congr_state rfl

theorem receive_of_payload (other : ∀ sessionId fingerprint,
    message.payload ≠ .attest sessionId fingerprint) (chat : Chat) :
    receive message chat = .error (.notAttestation message.kind) chat :=
  receive_eq_error_iff.mpr ⟨⟨0, .notAttestation other, .zero⟩, rfl⟩

end Attesting

namespace Chat

variable {chat struck : Chat} {calls : List Call} {call : Call} {message : Message} {size : Nat}

/-- A call that makes no use of the attestation, nor any difference to it. -/
def Spares (chat : Chat) (call : Call) : Prop :=
  (chat.after call).tally = chat.tally ∧ ∀ tally,
    (chat.withTally tally).answer call = chat.answer call ∧
      (chat.withTally tally).after call = (chat.after call).withTally tally

def Stirs (chat : Chat) (call : Call) : Prop :=
  (chat.withTally chat.progress).answer call = chat.answer call ∧
    (chat.withTally chat.progress).after call = chat.after call

theorem spares_or_stirs (convenes : call.Convenes) (chat : Chat) :
    chat.Spares call ∨ chat.Stirs call := by
  cases call with
  | insert participant => exact .inl ⟨rfl, fun _ => ⟨rfl, rfl⟩⟩
  | erase name => exact .inl ⟨rfl, fun _ => ⟨rfl, rfl⟩⟩
  | setSession sessionId => exact .inl ⟨rfl, fun _ => ⟨rfl, rfl⟩⟩
  | start =>
    refine .inr ⟨?_, ?_⟩
    · rw [answer, answer, Attesting.start_withTally]
    · rw [after, after, Attesting.leaves, Attesting.leaves, Attesting.start_withTally]
  | receive message =>
    by_cases attests : ∃ sessionId fingerprint, message.payload = .attest sessionId fingerprint
    · obtain ⟨sessionId, fingerprint, payload⟩ := attests
      refine .inr ⟨?_, ?_⟩
      · rw [answer, answer, Attesting.receive_withTally payload]
      · rw [after, after, Attesting.leaves, Attesting.leaves, Attesting.receive_withTally payload]
    · have other : ∀ sessionId fingerprint, message.payload ≠ .attest sessionId fingerprint :=
        fun sessionId fingerprint payload => attests ⟨sessionId, fingerprint, payload⟩
      have refused := Attesting.receive_of_payload other
      refine .inl ⟨?_, fun tally => ⟨?_, ?_⟩⟩ <;>
        simp only [answer, after, Attesting.leaves, refused] <;> rfl
  | _ => exact convenes.elim

/-- Two states of a chat that differ at most in that one has an attestation without any marks, and the
other one has none. -/
def Matches (chat other : Chat) : Prop :=
  other = chat ∨ (chat.tally = none ∧ ∃ size, other = chat.withTally (.fresh size))

theorem Matches.phase_eq {other : Chat} (matching : chat.Matches other) :
    other.phase = chat.phase := by
  obtain rfl | ⟨_, _, rfl⟩ := matching <;> rfl

theorem progress_of_idle (idle : chat.tally = none) : chat.progress = .fresh chat.roster.size := by
  rw [progress, idle, Option.getD_none]

theorem Stirs.begins (stirs : chat.Stirs call) (convenes : call.Convenes)
    (idle : chat.tally = none) :
    ∃ tally, (chat.after call).tally = some tally ∧ tally.size = chat.roster.size := by
  have becomes := (chat.withTally chat.progress).becomes call
  rw [stirs.2] at becomes
  obtain ⟨tally, held, size⟩ := becomes.lasts convenes.lasting rfl
  exact ⟨tally, held, by rw [size, progress_of_idle idle, Tally.size_fresh]⟩

theorem answers_of_size (idle : chat.tally = none) (convene : ∀ call ∈ calls, call.Convenes)
    (sized : ∀ tally, (chat.afterAll calls).tally = some tally → tally.size = size) :
    (chat.withTally (.fresh size)).answers calls = chat.answers calls ∧
      (chat.afterAll calls).Matches ((chat.withTally (.fresh size)).afterAll calls) := by
  induction calls generalizing chat with
  | nil => exact ⟨rfl, .inr ⟨idle, size, rfl⟩⟩
  | cons call calls ih =>
    obtain ⟨first, others⟩ := List.forall_mem_cons.mp convene
    obtain ⟨untouched, alike⟩ | stirs := spares_or_stirs first chat
    · obtain ⟨answered, left⟩ := alike (.fresh size)
      obtain ⟨later, matching⟩ := ih (untouched.trans idle) others sized
      rw [← left] at later matching
      exact ⟨congrArg₂ List.cons answered later, matching⟩
    · -- The attestation begins here and lasts, so it is among `size` participants.
      obtain ⟨tally, held, begun⟩ := stirs.begins first idle
      obtain ⟨further, reached, lasted⟩ :=
        afterAll_lasts (fun call member => (others call member).lasting) held
      have same : chat.roster.size = size := begun.symm.trans (lasted.symm.trans (sized _ reached))
      have fresh : chat.withTally (.fresh size) = chat.withTally chat.progress := by
        rw [progress_of_idle idle, same]
      obtain ⟨answered, left⟩ := stirs
      rw [fresh]
      refine ⟨congrArg₂ List.cons answered (by rw [left]), .inl ?_⟩
      exact congrArg (fun chat : Chat => chat.afterAll calls) left

/-- A refused message from a stranger, or to one, makes no difference to what comes after it if and
only if the attestation begins among as many participants as there were when it came. -/
theorem stray_unnoticed_iff {name : String} (idle : chat.tally = none)
    (stray : Attesting.receive message chat = .error (.notAParticipant name) struck)
    (convene : ∀ call ∈ calls, call.Convenes) :
    (∀ tally, (chat.afterAll calls).tally = some tally → tally.size = chat.roster.size) ↔
      struck.answers calls = chat.answers calls ∧
        (struck.afterAll calls).phase = (chat.afterAll calls).phase ∧
        (chat.afterAll calls).Matches (struck.afterAll calls) := by
  obtain ⟨_, rfl⟩ := Attesting.receive_eq_error_iff.mp stray
  have left : chat.aftermath (.notAParticipant name) =
      chat.withTally (.fresh chat.roster.size) := congrArg chat.withTally (progress_of_idle idle)
  rw [left]
  refine ⟨fun sized => ?_, fun ⟨_, _, matching⟩ tally reached => ?_⟩
  · obtain ⟨same, matching⟩ := answers_of_size idle convene sized
    exact ⟨same, matching.phase_eq, matching⟩
  · obtain equal | ⟨never, _⟩ := matching
    · have held : (chat.withTally (.fresh chat.roster.size)).tally =
          some (.fresh chat.roster.size) := rfl
      obtain ⟨further, lasted, size⟩ :=
        afterAll_lasts (fun call member => (convene call member).lasting) held
      rw [equal, reached] at lasted
      obtain rfl := Option.some.inj lasted
      rw [size, Tally.size_fresh]
    · rw [never] at reached
      contradiction

theorem stray_unnoticed_iff_pair :
    let chat := assembled "alice" [.alice, .bob] (.zero _)
    let stray := { attestationOfBob [.alice, .bob] with sender := "mallory" }
    let calls : List Call := [.receive (attestationOfBob [.alice, .bob])]
    ∃ struck, chat.tally = none ∧
      Attesting.receive stray chat = .error (.notAParticipant "mallory") struck ∧
      (∀ call ∈ calls, call.Convenes) ∧ struck.answers calls = chat.answers calls ∧
      (struck.afterAll calls).phase = (chat.afterAll calls).phase := by
  intro chat stray calls
  have idle : chat.tally = none := rfl
  have unknown : chat.roster.positionOf? stray.sender = none := by decide +kernel
  have clear : chat.IsClear stray 2 := .awaiting (.payload rfl) rfl
  have refused := Attesting.receive_eq_error_iff.mpr ⟨⟨2, .unknownSender unknown, clear⟩, rfl⟩
  have convene : ∀ call ∈ calls, call.Convenes := by simp [calls, Call.Convenes]
  have sized : (chat.afterAll calls).tally.map Tally.size = some chat.roster.size := by
    decide +kernel
  obtain ⟨same, phase, _⟩ := (stray_unnoticed_iff idle refused convene).mp fun tally reached => by
    simpa [reached] using sized
  exact ⟨_, idle, refused, convene, same, phase⟩

/-- Bob attests before Alice knows of anybody, and again when she knows of him. She takes that, and
turns encrypted, unless she has heard him the first time. -/
theorem exists_stray_noticed :
    ∃ (chat struck : Chat) (message : Message) (name : String) (calls : List Call),
      chat.tally = none ∧ Attesting.receive message chat = .error (.notAParticipant name) struck ∧
      (∀ call ∈ calls, call.Convenes) ∧ struck.answers calls ≠ chat.answers calls ∧
      (struck.afterAll calls).phase ≠ (chat.afterAll calls).phase := by
  let chat := Chat.new .default "alice"
  let message := attestationOfBob [.alice, .bob]
  let prepared := assembly [.alice, .bob] (.zero _)
  let struck := chat.withTally (.fresh 0)
  have unknown : chat.roster.positionOf? message.sender = none := rfl
  have clear : chat.IsClear message 2 := .awaiting (.payload rfl) rfl
  have refused : Attesting.receive message chat = .error (.notAParticipant message.sender) struck :=
    Attesting.receive_eq_error_iff.mpr ⟨⟨2, .unknownSender unknown, clear⟩, rfl⟩
  have convene : ∀ call ∈ prepared ++ [.receive message], call.Convenes := by
    simp [prepared, assembly, Call.Convenes]
  have phases : (struck.afterAll (prepared ++ [.receive message])).phase ≠
      (chat.afterAll (prepared ++ [.receive message])).phase := by decide +kernel
  refine ⟨chat, struck, message, _, _, rfl, refused, convene, fun same => ?_, phases⟩
  rw [answers_concat, answers_concat] at same
  have last := (List.append_inj' same (by simp only [List.length_singleton])).2
  rw [List.singleton_inj] at last
  have differ : outcome (Attesting.receive message (struck.afterAll prepared)) ≠
      outcome (Attesting.receive message (chat.afterAll prepared)) := by decide +kernel
  exact differ (Answer.reply.inj last)

end Chat

end GroupChat

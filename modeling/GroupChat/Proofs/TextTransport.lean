import GroupChat.Chat
import GroupChat.Proofs.ArmoredText
import GroupChat.Proofs.FrameCodec

/-!
Messages that a chat composes, sent over a transport of plain text. A message is composed unless the
chat lacks the session id that its kind asks for. It is then written, armored and read again as the
message that it was, as long as its lengths and counts fit in their four bytes.
-/
namespace GroupChat

open GroupChat.Part

namespace Message

theorem peekKind_frame (message : Message) : peekKind message.frame.bytes = .ok message.kind :=
  peekKind_eq_ok.mpr message.frame.bytes_tagOffset

end Message

namespace Armor

theorem decode_encode (frame : Bytes) : decode (encode frame) = .ok frame :=
  decode_eq_ok_iff.mpr (encode_eq_iff.mp rfl)

theorem receive_encode (frame : Bytes) (sender : String) :
    receive (encode frame) sender = Message.decode frame sender := by
  rw [receive, decode_encode]
  rfl

end Armor

namespace Chat

def envelope (chat : Chat) (payload : Payload) : Message where
  version := chat.settings.version
  senderInstance := chat.settings.ownInstance
  chatInstance := chat.settings.chatInstance
  sender := chat.name
  sessionId := if payload.kind.inSession then chat.sessionId else none
  payload

theorem compose_eq (chat : Chat) (payload : Payload) :
    chat.compose payload =
      match Message.requiredSessionId payload.kind chat.sessionId with
      | .ok sessionId => .ok { chat.envelope payload with sessionId }
      | .error error => .error error := by
  unfold compose Message.new
  simp only [origin]
  cases Message.requiredSessionId payload.kind chat.sessionId <;> rfl

theorem compose_of_session {chat : Chat} {payload : Payload}
    (session : payload.kind.inSession → chat.sessionId.isSome) :
    chat.compose payload = .ok (chat.envelope payload) := by
  have required : Message.requiredSessionId payload.kind chat.sessionId =
      .ok (chat.envelope payload).sessionId :=
    Message.requiredSessionId_eq_ok.mpr ⟨session, rfl⟩
  rw [compose_eq, required]

theorem compose_eq_error {chat : Chat} {payload : Payload} {error : FrameError} :
    chat.compose payload = .error error ↔
      payload.kind.inSession ∧ chat.sessionId = none ∧ error = .noSessionId payload.kind := by
  rw [compose_eq, ← Message.requiredSessionId_eq_error]
  cases Message.requiredSessionId payload.kind chat.sessionId <;> simp

theorem decode_envelope {chat : Chat} {payload : Payload}
    (session : payload.kind.inSession → chat.sessionId.isSome) (fits : payload.Fits) :
    (chat.envelope payload).encode = .ok (chat.envelope payload).frame.bytes ∧
      Message.decode (chat.envelope payload).frame.bytes chat.name =
        .ok (chat.envelope payload) := by
  have partsFit := payload.fits_iff.mp fits
  have carried : (chat.envelope payload).kind.inSession →
      (chat.envelope payload).sessionId.isSome := by
    intro asked
    have kept : (chat.envelope payload).sessionId = chat.sessionId := if_pos asked
    rw [kept]
    exact session asked
  refine ⟨Message.encode_eq_ok.mpr ⟨carried, partsFit, rfl⟩, ?_⟩
  have decoded := Message.decode_frame carried partsFit
  by_cases offered : (chat.envelope payload).kind = .offer
  · have absent : (chat.envelope payload).sessionId = none := by
      have unasked : ¬ payload.kind.inSession := by
        have kind : payload.kind = .offer := offered
        rw [kind]
        decide
      exact if_neg unasked
    rw [if_pos offered, ← absent] at decoded
    exact decoded
  · rwa [if_neg offered] at decoded

/-- A message is composed unless its kind asks for a session id that the chat lacks. What its frame
armors is received as the same message, and its kind is told by the tag alone. -/
theorem compose_received (chat : Chat) (payload : Payload) :
    (∀ error, chat.compose payload = .error error ↔
      payload.kind.inSession ∧ chat.sessionId = none ∧ error = .noSessionId payload.kind) ∧
    ((payload.kind.inSession → chat.sessionId.isSome) →
      ∃ message, chat.compose payload = .ok message ∧
        message.version = chat.settings.version ∧
        message.senderInstance = chat.settings.ownInstance ∧
        message.chatInstance = chat.settings.chatInstance ∧
        message.sender = chat.name ∧
        message.sessionId = (if payload.kind.inSession then chat.sessionId else none) ∧
        message.payload = payload ∧
        (payload.Fits →
          ∃ frame, message.encode = .ok frame ∧
            Armor.decode (Armor.encode frame) = .ok frame ∧
            Message.decode frame message.sender = .ok message ∧
            Armor.receive (Armor.encode frame) message.sender = .ok message ∧
            Message.peekKind frame = .ok message.kind ∧
            Armor.isMarked (Armor.encode frame) = true)) := by
  refine ⟨fun error => compose_eq_error, fun session => ?_⟩
  refine ⟨chat.envelope payload, compose_of_session session, rfl, rfl, rfl, rfl, rfl, rfl, ?_⟩
  intro fits
  obtain ⟨encoded, decoded⟩ := decode_envelope session fits
  have received : Armor.receive (Armor.encode (chat.envelope payload).frame.bytes) chat.name =
      .ok (chat.envelope payload) := by
    rw [Armor.receive_encode, decoded]
  exact ⟨_, encoded, Armor.decode_encode _, decoded, received, Message.peekKind_frame _,
    (Armor.marks_encode _).1⟩

def aliceInSession : Chat :=
  (Chat.new { ownInstance := 0x1000 } "alice").withSession ⟨List.replicate 32 9, rfl⟩

def twoKeys : Payload := .gkaUpflow 3 [.ofBytes [9], .ofBytes []]

theorem compose_received_keys :
    ∃ message, aliceInSession.compose twoKeys = .ok message ∧
      message.sessionId = aliceInSession.sessionId ∧
      ∃ frame, message.encode = .ok frame ∧
        Armor.receive (Armor.encode frame) "alice" = .ok message := by
  have fits : twoKeys.Fits := by simp [twoKeys, Payload.Fits, Mpi.ofBytes, UInt32.size]
  obtain ⟨-, composed⟩ := compose_received aliceInSession twoKeys
  obtain ⟨message, composed, -, -, -, sender, session, -, travels⟩ := composed fun _ => rfl
  obtain ⟨frame, encoded, -, -, received, -, -⟩ := travels fits
  rw [sender] at received
  exact ⟨message, composed, session, frame, encoded, received⟩

end Chat

end GroupChat

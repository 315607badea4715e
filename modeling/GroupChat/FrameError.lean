import GroupChat.MessageKind
import GroupChat.SlotList.StorageError

/-!
Why a frame, a payload or an armored text is refused, and why a message cannot be written.
-/
namespace GroupChat

inductive FrameError where
  | tooShort
  | wrongLength (expected actual : Nat)
  | trailing (count : Nat)
  | keyCount (declared found : Nat)
  | unknownTag (tag : UInt8)
  | noPayload (kind : MessageKind)
  | noSessionId (kind : MessageKind)
  | fieldTooLong
  | notArmored
  | storage (cause : StorageError)
deriving DecidableEq

namespace FrameError

def text : FrameError → String
  | tooShort => "Buffer is shorter than the message requires"
  | wrongLength expected actual =>
    s!"Expected exactly {expected} bytes of payload, found {actual}"
  | trailing count => s!"{count} unexpected trailing bytes"
  | keyCount declared found =>
    s!"Declared {declared} keys but the payload holds {found}"
  | unknownTag tag => s!"Unknown message type tag {tag}"
  | noPayload kind => s!"Message type {kind.name} has no payload"
  | noSessionId kind => s!"Message type {kind.name} requires a session id"
  | fieldTooLong => "The size of the opaque vector is larger than u32::MAX"
  | notArmored => "Text is not an armored message"
  | storage cause => "List error: " ++ cause.text

def kind : FrameError → ErrorKind
  | unknownTag _ | noPayload _ | noSessionId _ => .protocolViolation
  | storage _ => .resourceExhaustion
  | _ => .malformed

end FrameError

end GroupChat

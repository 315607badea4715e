import GroupChat.Payload.Reader
import GroupChat.Payload.Writer

/-!
Messages of a chat and their frames. A frame holds the protocol version, the tag of the kind, the
instances of the sender and of the chat, the session id if the kind belongs to a session, and the
payload up to the end.
-/
namespace GroupChat

structure Message where
  version : UInt16
  senderInstance : UInt32
  chatInstance : UInt32
  /-- The account that the transport delivered the frame from; the frame does not hold it. -/
  sender : String
  sessionId : Option SessionId
  payload : Payload
deriving DecidableEq

structure Origin where
  version : UInt16
  ownInstance : UInt32
  chatInstance : UInt32
  name : String
  sessionId : Option SessionId

namespace Message

def kind (message : Message) : MessageKind := message.payload.kind

def isAttestation (message : Message) : Bool := message.kind = .attest

def requiredSessionId (kind : MessageKind) (sessionId : Option SessionId) :
    Except FrameError (Option SessionId) :=
  if kind.inSession then
    if sessionId.isSome then .ok sessionId else .error (.noSessionId kind)
  else .ok none

def new (origin : Origin) (payload : Payload) : Except FrameError Message := do
  let sessionId ← requiredSessionId payload.kind origin.sessionId
  return {
    version := origin.version
    senderInstance := origin.ownInstance
    chatInstance := origin.chatInstance
    sender := origin.name
    sessionId
    payload
  }

/-- Writes a frame, or nothing if the session id is missing that the kind requires. A session id that
the kind does not require is left out. -/
def write (message : Message) : Writer := do
  let sessionId ← Writer.ofExcept (requiredSessionId message.kind message.sessionId)
  Writer.putNat 2 message.version.toNat
  Writer.putNat 1 message.kind.tag.toNat
  Writer.putNat 4 message.senderInstance.toNat
  Writer.putNat 4 message.chatInstance.toNat
  Writer.put (sessionId.elim [] Block.bytes)
  message.payload.write

def encode (message : Message) : Except FrameError Bytes := message.write.written

def readKind (tag : UInt8) : FrameReader MessageKind :=
  match MessageKind.ofTag? tag with
  | some kind => return kind
  | none => Reader.refuse (.unknownTag tag)

def readSessionId (kind : MessageKind) : FrameReader (Option SessionId) :=
  if kind.inSession then some <$> FrameReader.block _ else return none

def read (sender : String) : FrameReader Message := do
  FrameReader.ensureRemaining Layout.headerSize
  let version ← Reader.takeNat 2
  let tag ← Reader.takeNat 1
  let kind ← readKind (UInt8.ofNat tag)
  let senderInstance ← Reader.takeNat 4
  let chatInstance ← Reader.takeNat 4
  let sessionId ← readSessionId kind
  let payload ← Payload.read kind
  return {
    version := UInt16.ofNat version
    senderInstance := UInt32.ofNat senderInstance
    chatInstance := UInt32.ofNat chatInstance
    sender
    sessionId
    payload
  }

def decode (frame : Bytes) (sender : String) : Except (ReadError FrameError) Message :=
  (read sender).eval frame

def peekKind (frame : Bytes) : Except FrameError MessageKind :=
  match frame[Layout.tagOffset]? with
  | none => .error .tooShort
  | some tag =>
    match MessageKind.ofTag? tag with
    | some kind => .ok kind
    | none => .error (.unknownTag tag)

/-- The bytes in the place where a frame holds its session id if its kind requires one. -/
def peekSessionId (frame : Bytes) : Except (ReadError FrameError) SessionId :=
  if frame.length < Layout.headerSize then .error (.refused .tooShort)
  else (FrameReader.block _).eval (frame.drop Layout.headerSize)

end Message

end GroupChat

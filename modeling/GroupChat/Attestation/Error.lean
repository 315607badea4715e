import GroupChat.FrameError

/-!
Why an attestation call fails.
-/
namespace GroupChat

inductive AttestationError where
  | outOfRange (position size : Nat)
  | noKey (name : String)
  | noSessionId
  | notAParticipant (name : String)
  | notAttestation (kind : MessageKind)
  | finished
  | disagrees (position : Nat)
  | frame (cause : FrameError)
deriving DecidableEq

namespace AttestationError

def text : AttestationError → String
  | outOfRange position size =>
    s!"Position {position} is outside of a table of {size} participants"
  | noKey name => s!"Participant {name} has no signing key"
  | noSessionId => "The chat has no session id yet"
  | notAParticipant name => s!"{name} is not a participant of this chat"
  | notAttestation kind => s!"Expected an attest message, got {kind.name}"
  | finished => "Attestation is already finished"
  | disagrees position => s!"Attestation of participant #{position} does not match ours"
  | frame cause => "Message error: " ++ cause.text

def kind : AttestationError → ErrorKind
  | disagrees _ => .authenticationMismatch
  | noKey _ => .cryptographic
  | frame cause => cause.kind
  | _ => .protocolViolation

end AttestationError

end GroupChat

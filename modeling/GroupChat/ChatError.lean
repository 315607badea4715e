import GroupChat.Attestation.Error
import GroupChat.Signing.Error

/-!
Any error of the library, with its kind and its wording.
-/
namespace GroupChat

inductive ChatError where
  | storage (cause : StorageError)
  | signing (cause : SigningError)
  | frame (cause : FrameError)
  | attestation (cause : AttestationError)
deriving DecidableEq

namespace ChatError

def kind : ChatError → ErrorKind
  | storage cause => cause.kind
  | signing cause => cause.kind
  | frame cause => cause.kind
  | attestation cause => cause.kind

def causeText : ChatError → String
  | storage cause => cause.text
  | signing cause => cause.text
  | frame cause => cause.text
  | attestation cause => cause.text

def area : ChatError → String
  | storage _ => "List"
  | signing _ => "Signature"
  | frame _ => "Message"
  | attestation _ => "Attestation"

def text (error : ChatError) : String := error.area ++ " error: " ++ error.causeText

end ChatError

structure SystemFailure where
  category : String
  text : String
deriving DecidableEq

/-- The system has no category of its own for the errors of a chat. -/
def ChatError.systemFailure (error : ChatError) : SystemFailure := ⟨"Other", error.text⟩

end GroupChat

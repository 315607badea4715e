import GroupChat.ErrorKind

/-!
Why a key or a signature is refused, and why a key does not sign.
-/
namespace GroupChat

inductive SignatureComponent where
  | r
  | s
deriving DecidableEq

def SignatureComponent.name : SignatureComponent → String
  | r => "r"
  | s => "s"

inductive SigningError where
  | noSecret
  | invalidKey
  | componentSize (component : SignatureComponent) (length : Nat)
  | tooShort
  | trailing (count : Nat)
  | componentTooLong
  | schemeFailed
deriving DecidableEq

namespace SigningError

def text : SigningError → String
  | noSecret => "The key only holds a public half and cannot sign"
  | invalidKey => "The public key is not a valid Ed25519 point"
  | componentSize component length =>
    s!"Signature component {component.name} is {length} bytes long"
  | tooShort => "The serialized signature is shorter than its declared lengths"
  | trailing count => s!"The serialized signature is followed by {count} unexpected bytes"
  | componentTooLong => "A signature component is too long to be length-prefixed"
  | schemeFailed => "The signing backend failed"

def kind : SigningError → ErrorKind
  | noSecret | invalidKey | schemeFailed => .cryptographic
  | _ => .malformed

end SigningError

end GroupChat

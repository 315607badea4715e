import GroupChat.Signing.Scheme
import GroupChat.Signing.Signature

/-!
Keys that sign and verify. What is signed is a digest of the data, and empty data has the digest of
all zero bytes. Keys that come off the wire have a public half only, and two keys are equal when
their public halves are.
-/
namespace GroupChat

structure SigningKey where
  publicHalf : PublicKey
  privateHalf : Option SecretKey

instance : BEq SigningKey where
  beq a b := a.publicHalf == b.publicHalf

/-- The digest that stands for `data` when it is signed or verified. -/
def signedDigest (data : Bytes) : Digest := if data.isEmpty then .zero _ else sha512 data

theorem signedDigest_nil : signedDigest [] = .zero _ := rfl

theorem signedDigest_of_ne_nil {data : Bytes} (given : data ≠ []) :
    signedDigest data = sha512 data := by
  rw [signedDigest, if_neg]
  rwa [List.isEmpty_iff]

namespace SigningKey

def ofSecret (scheme : SignatureScheme) (secret : SecretKey) : SigningKey :=
  ⟨scheme.publicKey secret, some secret⟩

def withoutSecret (key : SigningKey) : SigningKey := { key with privateHalf := none }

def canSign (key : SigningKey) : Bool := key.privateHalf.isSome

def ofPublicBytes (scheme : SignatureScheme) (bytes : Bytes) : Except SigningError SigningKey :=
  match Block.ofBytes? _ bytes with
  | some publicHalf =>
    if scheme.isPublicKey publicHalf then .ok ⟨publicHalf, none⟩ else .error .invalidKey
  | none => .error .invalidKey

def sign (scheme : SignatureScheme) (key : SigningKey) (data : Bytes) :
    Except SigningError Signature :=
  match key.privateHalf with
  | some secret =>
    let (r, s) := scheme.sign secret (signedDigest data)
    .ok ⟨r.bytes, s.bytes⟩
  | none => .error .noSecret

def signatureHalf (component : SignatureComponent) (bytes : Bytes) :
    Except SigningError SignatureHalf :=
  match Block.ofBytes? _ bytes with
  | some half => .ok half
  | none => .error (.componentSize component bytes.length)

/-- Whether `signature` is one of `data`. Only components that could not be of any signature are an
error. -/
def verify (scheme : SignatureScheme) (key : SigningKey) (data : Bytes) (signature : Signature) :
    Except SigningError Bool := do
  let r ← signatureHalf .r signature.r
  let s ← signatureHalf .s signature.s
  return scheme.verify key.publicHalf (signedDigest data) r s

end SigningKey

end GroupChat

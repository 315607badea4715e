import GroupChat.Layout
import GroupChat.Signing.Error
import GroupChat.Wire.Reader

/-!
Signatures and their written form: the components `r` and `s`, each after its length. Components of
any size are read and written; a key looks at their size only when it verifies.
-/
namespace GroupChat

structure Signature where
  r : Bytes
  s : Bytes
deriving DecidableEq

namespace Signature

def encodedSize (signature : Signature) : Nat :=
  2 * Layout.lengthSize + signature.r.length + signature.s.length

def encodeComponent (component : Bytes) : Except SigningError Bytes :=
  if component.length < UInt32.size then
    .ok (BigEndian.encode Layout.lengthSize component.length ++ component)
  else .error .componentTooLong

def encode (signature : Signature) : Except SigningError Bytes := do
  let r ← encodeComponent signature.r
  let s ← encodeComponent signature.s
  return r ++ s

def readComponent : Reader SigningError Bytes := do
  Reader.ensure Layout.lengthSize .tooShort
  let size ← Reader.takeNat Layout.lengthSize
  Reader.ensure size .tooShort
  Reader.take size

def read : Reader SigningError Signature := do
  let r ← readComponent
  let s ← readComponent
  return ⟨r, s⟩

def decode (bytes : Bytes) : Except (ReadError SigningError) Signature :=
  (Reader.toEnd read .trailing).eval bytes

/-- Reads at most `count` signatures, one after the other, until a read fails or nothing is left.
Each result comes with the number of bytes left after it. -/
def readMany : (count : Nat) → Bytes → List (Except (ReadError SigningError) Signature × Nat)
  | 0, _ => []
  | _ + 1, [] => []
  | count + 1, buffer@(_ :: _) =>
    match read buffer with
    | .ok signature rest => (.ok signature, rest.length) :: readMany count rest
    | .error error rest => [(.error error, rest.length)]

def readAll (buffer : Bytes) : List (Except (ReadError SigningError) Signature × Nat) :=
  readMany buffer.length buffer

end Signature

end GroupChat

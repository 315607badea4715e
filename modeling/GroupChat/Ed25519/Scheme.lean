import GroupChat.Ed25519.Curve
import GroupChat.Signing.Scheme

/-!
Ed25519 over digests, with the strict check of signatures: `s` must be below the group order, neither
the key nor `r` may have small order, and `r` must be the encoding of `s B - k A` byte for byte.
-/
namespace GroupChat.Ed25519

structure ExpandedKey where
  scalar : Nat
  nonceSeed : Bytes

/-- The scalar is a multiple of eight between `2^254` and `2^255`. -/
def expand (secret : SecretKey) : ExpandedKey :=
  let hash := (sha512 secret.bytes).bytes
  let value := littleEndian (hash.take 32)
  ⟨1 <<< 254 + value % (1 <<< 254) / 8 * 8, hash.drop 32⟩

def publicKey (secret : SecretKey) : PublicKey := (Point.base.scale (expand secret).scalar).encode

def hashToScalar (parts : List Bytes) : Nat := littleEndian (sha512Concat parts).bytes % groupOrder

def challenge (r : SignatureHalf) (key : PublicKey) (digest : Digest) : Nat :=
  hashToScalar [r.bytes, key.bytes, digest.bytes]

def sign (secret : SecretKey) (digest : Digest) : SignatureHalf × SignatureHalf :=
  let expanded := expand secret
  let key := publicKey secret
  let nonce := hashToScalar [expanded.nonceSeed, digest.bytes]
  let r := (Point.base.scale nonce).encode
  let s := (nonce + challenge r key digest * expanded.scalar) % groupOrder
  (r, toLittleEndian s)

def verify (key : PublicKey) (digest : Digest) (r s : SignatureHalf) : Bool :=
  let response := littleEndian s.bytes
  match Point.decode? key, Point.decode? r with
  | some keyPoint, some rPoint =>
    let expected := (Point.base.scale response).add
      (keyPoint.neg.scale (challenge r key digest))
    response < groupOrder && !rPoint.hasSmallOrder && !keyPoint.hasSmallOrder &&
      expected.encode == r
  | _, _ => false

def scheme : SignatureScheme where
  publicKey
  isPublicKey key := (Point.decode? key).isSome
  sign
  verify

end GroupChat.Ed25519

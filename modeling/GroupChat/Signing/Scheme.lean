import GroupChat.Sha512

/-!
What signing needs of a signature scheme over digests. Public keys are raw bytes, some of which are
no key at all.
-/
namespace GroupChat

abbrev SecretKey := Block Layout.secretKeySize

abbrev PublicKey := Block Layout.publicKeySize

abbrev SignatureHalf := Block Layout.signatureComponentSize

structure SignatureScheme where
  publicKey : SecretKey → PublicKey
  isPublicKey : PublicKey → Bool
  sign : SecretKey → Digest → SignatureHalf × SignatureHalf
  verify : PublicKey → Digest → (r s : SignatureHalf) → Bool

end GroupChat

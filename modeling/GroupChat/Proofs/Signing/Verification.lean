import GroupChat.Ed25519.Scheme
import GroupChat.Proofs.Signing.Streams
import GroupChat.Signing.Key

/-!
Signing and verifying over a signature scheme that accepts what it signs. A signature that is sent
in its written form verifies under the public half that is sent as bytes. Verification fails for the
size of a component only, and signing for a missing secret only.
-/
namespace GroupChat

/-- What signing relies on: public halves are public keys, and the signatures made with a secret are
accepted under its public half. -/
structure SignatureScheme.IsSound (scheme : SignatureScheme) : Prop where
  isPublicKey_publicKey : ∀ secret, scheme.isPublicKey (scheme.publicKey secret) = true
  verify_sign : ∀ secret digest,
    scheme.verify (scheme.publicKey secret) digest
      (scheme.sign secret digest).1 (scheme.sign secret digest).2 = true

namespace SigningKey

variable {scheme : SignatureScheme} {key : SigningKey} {data : Bytes} {signature : Signature}
  {error : SigningError}

theorem ofPublicBytes_publicHalf (valid : scheme.isPublicKey key.publicHalf = true) :
    ofPublicBytes scheme key.publicHalf.bytes = .ok key.withoutSecret := by
  simp only [ofPublicBytes, Block.ofBytes?_bytes, valid, if_true]
  rfl

theorem withoutSecret_beq (key : SigningKey) : (key.withoutSecret == key) = true :=
  beq_self_eq_true key.publicHalf

theorem sign_eq_error :
    key.sign scheme data = .error error ↔ key.privateHalf = none ∧ error = .noSecret := by
  unfold sign
  cases key.privateHalf <;> simp [eq_comm]

theorem sign_eq_ok :
    key.sign scheme data = .ok signature ↔ ∃ secret, key.privateHalf = some secret ∧
      signature = ⟨(scheme.sign secret (signedDigest data)).1.bytes,
        (scheme.sign secret (signedDigest data)).2.bytes⟩ := by
  unfold sign
  cases key.privateHalf <;> simp [eq_comm]

theorem sign_ofSecret (scheme : SignatureScheme) (secret : SecretKey) (data : Bytes) :
    (ofSecret scheme secret).sign scheme data =
      .ok ⟨(scheme.sign secret (signedDigest data)).1.bytes,
        (scheme.sign secret (signedDigest data)).2.bytes⟩ := rfl

theorem signatureHalf_eq_ok {component : SignatureComponent} {bytes : Bytes}
    {half : SignatureHalf} : signatureHalf component bytes = .ok half ↔ half.bytes = bytes := by
  rw [← Block.ofBytes?_eq_some, signatureHalf]
  cases Block.ofBytes? _ bytes <;> simp

theorem signatureHalf_bytes (component : SignatureComponent) (half : SignatureHalf) :
    signatureHalf component half.bytes = .ok half := signatureHalf_eq_ok.mpr rfl

theorem size_of_signatureHalf {component : SignatureComponent} {bytes : Bytes}
    {half : SignatureHalf} (ok : signatureHalf component bytes = .ok half) :
    bytes.length = Layout.signatureComponentSize := by
  rw [← signatureHalf_eq_ok.mp ok]
  exact half.size_eq

theorem signatureHalf_eq_error {component : SignatureComponent} {bytes : Bytes} :
    signatureHalf component bytes = .error error ↔
      bytes.length ≠ Layout.signatureComponentSize ∧
        error = .componentSize component bytes.length := by
  unfold signatureHalf Block.ofBytes?
  by_cases sized : bytes.length = Layout.signatureComponentSize
  · simp [sized]
  · simp [sized, eq_comm]

theorem fits_halves (r s : SignatureHalf) : (Signature.mk r.bytes s.bytes).Fits := by
  have small : Layout.signatureComponentSize < UInt32.size := by decide
  exact ⟨by rwa [r.size_eq], by rwa [s.size_eq]⟩

theorem verify_halves (key : SigningKey) (data : Bytes) (r s : SignatureHalf) :
    key.verify scheme data ⟨r.bytes, s.bytes⟩ =
      .ok (scheme.verify key.publicHalf (signedDigest data) r s) := by
  simp only [verify, signatureHalf_bytes]
  rfl

theorem verify_eq_error :
    key.verify scheme data signature = .error error ↔
      (signature.r.length ≠ Layout.signatureComponentSize ∧
        error = .componentSize .r signature.r.length) ∨
      (signature.r.length = Layout.signatureComponentSize ∧
        signature.s.length ≠ Layout.signatureComponentSize ∧
        error = .componentSize .s signature.s.length) := by
  unfold verify
  cases first : signatureHalf .r signature.r with
  | error reason =>
    obtain ⟨size, rfl⟩ := signatureHalf_eq_error.mp first
    simp [bind, Except.bind, size, eq_comm]
  | ok r =>
    have sizeR := size_of_signatureHalf first
    cases second : signatureHalf .s signature.s with
    | error reason =>
      obtain ⟨size, rfl⟩ := signatureHalf_eq_error.mp second
      simp [bind, Except.bind, sizeR, size, eq_comm]
    | ok s =>
      have sizeS := size_of_signatureHalf second
      simp [bind, Except.bind, pure, Except.pure, sizeR, sizeS]

theorem verify_eq_ok {valid : Bool} :
    key.verify scheme data signature = .ok valid ↔
      ∃ r s : SignatureHalf, signature = ⟨r.bytes, s.bytes⟩ ∧
        scheme.verify key.publicHalf (signedDigest data) r s = valid := by
  constructor
  · intro verified
    unfold verify at verified
    cases first : signatureHalf .r signature.r with
    | error => simp [first, bind, Except.bind] at verified
    | ok r =>
      cases second : signatureHalf .s signature.s with
      | error => simp [first, second, bind, Except.bind] at verified
      | ok s =>
        simp only [first, second, bind, Except.bind, pure, Except.pure, Except.ok.injEq] at verified
        have halves : signature = ⟨r.bytes, s.bytes⟩ := by
          rw [signatureHalf_eq_ok.mp first, signatureHalf_eq_ok.mp second]
        exact ⟨r, s, halves, verified⟩
  · rintro ⟨r, s, rfl, rfl⟩
    exact verify_halves key data r s

theorem verify_withoutSecret :
    key.withoutSecret.verify scheme data signature = key.verify scheme data signature := rfl

/-- Under a scheme that accepts what it signs, a signature verifies after it and the public half
went over the wire. Errors do not depend on the scheme, which signs and verifies the digest of the
data: all zero bytes for none, else their SHA-512. -/
theorem sign_verify (scheme : SignatureScheme) :
    (scheme.IsSound → ∀ secret data, ∃ parsed signature written,
      ofPublicBytes scheme (ofSecret scheme secret).publicHalf.bytes = .ok parsed ∧
      (parsed == ofSecret scheme secret) = true ∧ parsed.canSign = false ∧
      (ofSecret scheme secret).sign scheme data = .ok signature ∧
      signature.encode = .ok written ∧ Signature.decode written = .ok signature ∧
      parsed.verify scheme data signature = .ok true) ∧
    ∀ (key : SigningKey) (data : Bytes) (signature : Signature),
      (∀ error, key.verify scheme data signature = .error error ↔
        (signature.r.length ≠ Layout.signatureComponentSize ∧
          error = .componentSize .r signature.r.length) ∨
        (signature.r.length = Layout.signatureComponentSize ∧
          signature.s.length ≠ Layout.signatureComponentSize ∧
          error = .componentSize .s signature.s.length)) ∧
      key.withoutSecret.verify scheme data signature = key.verify scheme data signature ∧
      (∀ error,
        key.sign scheme data = .error error ↔ key.privateHalf = none ∧ error = .noSecret) ∧
      (∀ valid, key.verify scheme data signature = .ok valid ↔
        ∃ r s : SignatureHalf, signature = ⟨r.bytes, s.bytes⟩ ∧
          scheme.verify key.publicHalf (signedDigest data) r s = valid) ∧
      (key.sign scheme data = .ok signature ↔ ∃ secret, key.privateHalf = some secret ∧
        signature = ⟨(scheme.sign secret (signedDigest data)).1.bytes,
          (scheme.sign secret (signedDigest data)).2.bytes⟩) ∧
      signedDigest [] = .zero _ ∧ (data ≠ [] → signedDigest data = sha512 data) := by
  refine ⟨fun sound secret data => ?_, fun key data signature =>
    ⟨fun error => verify_eq_error, verify_withoutSecret, fun error => sign_eq_error,
      fun valid => verify_eq_ok, sign_eq_ok, signedDigest_nil, signedDigest_of_ne_nil⟩⟩
  let key := ofSecret scheme secret
  let halves := scheme.sign secret (signedDigest data)
  have parsed : ofPublicBytes scheme key.publicHalf.bytes = .ok key.withoutSecret :=
    ofPublicBytes_publicHalf (sound.isPublicKey_publicKey secret)
  have fits : (Signature.mk halves.1.bytes halves.2.bytes).Fits := fits_halves halves.1 halves.2
  have verified : key.withoutSecret.verify scheme data ⟨halves.1.bytes, halves.2.bytes⟩ =
      .ok true := by
    rw [verify_halves, Except.ok.injEq]
    exact sound.verify_sign secret (signedDigest data)
  exact ⟨_, _, _, parsed, withoutSecret_beq key, rfl, sign_ofSecret scheme secret data,
    Signature.encode_of_fits fits, Signature.decode_eq_ok.mpr ⟨fits, rfl⟩, verified⟩

def uniqueScheme (publicKey : SecretKey → PublicKey)
    (signature : PublicKey → Digest → SignatureHalf × SignatureHalf) : SignatureScheme where
  publicKey
  isPublicKey _ := true
  sign secret := signature (publicKey secret)
  verify key digest r s := (r, s) = signature key digest

theorem uniqueScheme_isSound (publicKey : SecretKey → PublicKey)
    (signature : PublicKey → Digest → SignatureHalf × SignatureHalf) :
    (uniqueScheme publicKey signature).IsSound where
  isPublicKey_publicKey _ := rfl
  verify_sign _ _ := decide_eq_true rfl

def aliceSecret : SecretKey := ⟨List.replicate 32 3, rfl⟩

/-- The signature of Ed25519 under the key of one secret, and a stand-in under all other keys. -/
def aliceSignature (key : PublicKey) (digest : Digest) : SignatureHalf × SignatureHalf :=
  if key = Ed25519.publicKey aliceSecret then Ed25519.sign aliceSecret digest else (key, key)

theorem aliceSignature_publicKey (digest : Digest) :
    aliceSignature (Ed25519.publicKey aliceSecret) digest = Ed25519.sign aliceSecret digest := by
  rw [aliceSignature, if_pos (Eq.refl _)]

def aliceScheme : SignatureScheme := uniqueScheme Ed25519.publicKey aliceSignature

set_option maxRecDepth 100000 in
theorem verify_aliceSignature : ∀ data ∈ ([[], [1, 2, 3]] : List Bytes),
    Ed25519.verify (Ed25519.publicKey aliceSecret) (signedDigest data)
      (Ed25519.sign aliceSecret (signedDigest data)).1
      (Ed25519.sign aliceSecret (signedDigest data)).2 = true := by
  -- Points and hashes are computed on plain numbers, which the kernel is quick with.
  decide +kernel

def AliceSigns (data : Bytes) : Prop :=
  aliceSignature (Ed25519.publicKey aliceSecret) (signedDigest data) =
      Ed25519.sign aliceSecret (signedDigest data) ∧
    Ed25519.verify (Ed25519.publicKey aliceSecret) (signedDigest data)
      (Ed25519.sign aliceSecret (signedDigest data)).1
      (Ed25519.sign aliceSecret (signedDigest data)).2 = true ∧
    ∃ parsed signature written,
      ofPublicBytes aliceScheme (ofSecret aliceScheme aliceSecret).publicHalf.bytes = .ok parsed ∧
      (ofSecret aliceScheme aliceSecret).sign aliceScheme data = .ok signature ∧
      signature.encode = .ok written ∧ Signature.decode written = .ok signature ∧
      parsed.verify aliceScheme data signature = .ok true

theorem sign_verify_alice :
    aliceScheme.IsSound ∧ AliceSigns [] ∧ AliceSigns [1, 2, 3] ∧
      signedDigest [1, 2, 3] = sha512 [1, 2, 3] := by
  have sound : aliceScheme.IsSound := uniqueScheme_isSound Ed25519.publicKey aliceSignature
  have signs (data : Bytes) (member : data ∈ ([[], [1, 2, 3]] : List Bytes)) : AliceSigns data := by
    obtain ⟨parsed, signature, written, read, -, -, signed, encoded, decoded, verified⟩ :=
      (sign_verify aliceScheme).1 sound aliceSecret data
    exact ⟨aliceSignature_publicKey _, verify_aliceSignature data member, parsed, signature,
      written, read, signed, encoded, decoded, verified⟩
  exact ⟨sound, signs [] (by simp), signs [1, 2, 3] (by simp), signedDigest_of_ne_nil (by simp)⟩

end SigningKey

end GroupChat

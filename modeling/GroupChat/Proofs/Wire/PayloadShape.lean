import GroupChat.Payload.Writer
import GroupChat.Proofs.Wire.Reading

/-!
The shape of each payload on the wire. `Spelled` says of a payload and a list of parts that the
parts spell the payload: numbers of fixed size stand there with their most significant byte first,
and those of any size may have zero bytes before them. `parts` is the one list of them that is
written.
-/
namespace GroupChat.Payload

open GroupChat.Part FrameReader

inductive Spelled : Payload → List Part → Prop
  | offer (position : Block 4) (sidContribution : Block Layout.sidContributionSize) :
    Spelled (.offer (.ofNat position.value) sidContribution)
      [plain position.bytes, plain sidContribution.bytes]
  | dakeHandshake (ephemeralPublic longTermPublic : Bytes) :
    Spelled (.dakeHandshake (.ofBytes ephemeralPublic) (.ofBytes longTermPublic))
      [number ephemeralPublic, number longTermPublic]
  | dakeConfirm (recipient : Block 4) (mac : Block Layout.macSize) :
    Spelled (.dakeConfirm (.ofNat recipient.value) mac) [plain recipient.bytes, plain mac.bytes]
  | dakeKey (recipient : Block 4) (mac : Block Layout.macSize) (key : Bytes) :
    Spelled (.dakeKey (.ofNat recipient.value) mac key)
      [plain recipient.bytes, plain mac.bytes, field key]
  | gkaUpflow (recipient : Block 4) (keys : List Bytes) :
    Spelled (.gkaUpflow (.ofNat recipient.value) (keys.map .ofBytes))
      (plain recipient.bytes :: count keys.length :: keys.map number)
  | gkaDownflow (keys : List Bytes) :
    Spelled (.gkaDownflow (keys.map .ofBytes)) (count keys.length :: keys.map number)
  | attest (sessionId : SessionId) (fingerprint : Block Layout.tableHashSize) :
    Spelled (.attest sessionId fingerprint) [plain sessionId.bytes, plain fingerprint.bytes]
  | data (counter : Block 8) (ciphertext : Bytes) :
    Spelled (.data (.ofNat counter.value) ciphertext) [plain counter.bytes, field ciphertext]
  | shutdownShutdown (shutdownHash : Block Layout.participantsHashSize) :
    Spelled (.shutdownShutdown shutdownHash) [plain shutdownHash.bytes]
  | shutdownDigest (digest : Block Layout.participantsHashSize) :
    Spelled (.shutdownDigest digest) [plain digest.bytes]
  | shutdownEnd : Spelled .shutdownEnd []
  | shutdownKeyRelease (key : Bytes) : Spelled (.shutdownKeyRelease key) [field key]

/-- The parts that are written, every number in its normal form. -/
def parts : Payload → List Part
  | offer position sidContribution =>
    [plain (.ofValue 4 position.toNat : Block 4).bytes, plain sidContribution.bytes]
  | dakeHandshake ephemeralPublic longTermPublic =>
    [number ephemeralPublic.bytes, number longTermPublic.bytes]
  | dakeConfirm recipient mac =>
    [plain (.ofValue 4 recipient.toNat : Block 4).bytes, plain mac.bytes]
  | dakeKey recipient mac key =>
    [plain (.ofValue 4 recipient.toNat : Block 4).bytes, plain mac.bytes, field key]
  | gkaUpflow recipient keys =>
    plain (.ofValue 4 recipient.toNat : Block 4).bytes :: count keys.length ::
      keys.map fun key => number key.bytes
  | gkaDownflow keys => count keys.length :: keys.map fun key => number key.bytes
  | attest sessionId fingerprint => [plain sessionId.bytes, plain fingerprint.bytes]
  | data counter ciphertext => [plain (.ofValue 8 counter.toNat : Block 8).bytes, field ciphertext]
  | shutdownShutdown shutdownHash => [plain shutdownHash.bytes]
  | shutdownDigest digest => [plain digest.bytes]
  | shutdownEnd => []
  | shutdownKeyRelease key => [field key]

theorem parts_of_spelled {payload : Payload} {parts : List Part} (spelled : payload.Spelled parts) :
    payload.parts = parts.map strip := by
  cases spelled <;> simp only [Payload.parts, strip, List.map_cons, List.map_nil, List.map_map,
    List.length_map, Function.comp_def, Block.ofValue_uint32, Block.ofValue_uint64]

theorem spelled_parts (payload : Payload) : payload.Spelled payload.parts := by
  have keysEq (keys : List Mpi) : (keys.map Mpi.bytes).map Mpi.ofBytes = keys := by
    simp [Function.comp_def]
  cases payload with
  | offer position sidContribution =>
    have spelled := Spelled.offer (.ofValue 4 position.toNat) sidContribution
    rwa [Block.uint32_ofValue] at spelled
  | dakeHandshake ephemeralPublic longTermPublic =>
    have spelled := Spelled.dakeHandshake ephemeralPublic.bytes longTermPublic.bytes
    rwa [Mpi.ofBytes_bytes, Mpi.ofBytes_bytes] at spelled
  | dakeConfirm recipient mac =>
    have spelled := Spelled.dakeConfirm (.ofValue 4 recipient.toNat) mac
    rwa [Block.uint32_ofValue] at spelled
  | dakeKey recipient mac key =>
    have spelled := Spelled.dakeKey (.ofValue 4 recipient.toNat) mac key
    rwa [Block.uint32_ofValue] at spelled
  | gkaUpflow recipient keys =>
    have spelled := Spelled.gkaUpflow (.ofValue 4 recipient.toNat) (keys.map Mpi.bytes)
    rwa [Block.uint32_ofValue, keysEq, List.length_map, List.map_map] at spelled
  | gkaDownflow keys =>
    have spelled := Spelled.gkaDownflow (keys.map Mpi.bytes)
    rwa [keysEq, List.length_map, List.map_map] at spelled
  | attest sessionId fingerprint => exact .attest sessionId fingerprint
  | data counter ciphertext =>
    have spelled := Spelled.data (.ofValue 8 counter.toNat) ciphertext
    rwa [Block.uint64_ofValue] at spelled
  | shutdownShutdown shutdownHash => exact .shutdownShutdown shutdownHash
  | shutdownDigest digest => exact .shutdownDigest digest
  | shutdownEnd => exact .shutdownEnd
  | shutdownKeyRelease key => exact .shutdownKeyRelease key

variable {buffer rest : Bytes}

theorem readKeys_eq_ok {missing found : Nat} {keys : List Mpi} :
    readKeys missing found buffer = .ok keys rest ↔
      ∃ digits : List Bytes, digits.length = missing ∧ digits.map .ofBytes = keys ∧
        (∀ part ∈ digits.map number, part.Fits) ∧ buffer = join (digits.map number) ++ rest := by
  induction missing generalizing found keys buffer rest with
  | zero =>
    simp only [readKeys, pure_eq_ok, List.length_eq_zero_iff]
    refine ⟨fun read => ?_, fun spelled => ?_⟩
    · obtain ⟨rfl, rfl⟩ := read
      exact ⟨[], rfl, rfl, by simp, rfl⟩
    · obtain ⟨_, rfl, rfl, _, rfl⟩ := spelled
      exact ⟨rfl, rfl⟩
  | succ missing ih =>
    simp only [readKeys, bind_eq_ok, ensure_eq_ok, mpi_eq_ok, ih, pure_eq_ok]
    refine ⟨fun read => ?_, fun spelled => ?_⟩
    · obtain ⟨_, _, ⟨_, rfl⟩, _, _, ⟨first, rfl, fits, rfl⟩, _, _,
        ⟨others, rfl, rfl, othersFit, rfl⟩, rfl, rfl⟩ := read
      refine ⟨first :: others, rfl, rfl, ?_, by simp⟩
      exact List.forall_mem_cons.mpr ⟨fits, othersFit⟩
    · obtain ⟨digits, size, rfl, fits, rfl⟩ := spelled
      obtain ⟨first, others, rfl⟩ := List.exists_cons_of_length_eq_add_one size
      obtain ⟨fits, othersFit⟩ := List.forall_mem_cons.mp fits
      refine ⟨(), _, ⟨?_, rfl⟩, _, _, ⟨first, rfl, fits, ?_⟩, _, _,
        ⟨others, Nat.succ.inj size, rfl, othersFit, rfl⟩, rfl, rfl⟩
      · simp [Part.bytes, sized]
      · simp

theorem readKeyList_eq_ok {keys : List Mpi} :
    readKeyList buffer = .ok keys rest ↔
      rest = [] ∧ ∃ digits : List Bytes, digits.map .ofBytes = keys ∧
        (∀ part ∈ count digits.length :: digits.map number, part.Fits) ∧
        buffer = join (count digits.length :: digits.map number) := by
  simp only [readKeyList, bind_eq_ok, length_eq_ok, toEnd_eq_ok, readKeys_eq_ok,
    List.forall_mem_cons, join_cons]
  refine ⟨fun read => ?_, fun spelled => ?_⟩
  · obtain ⟨_, _, ⟨counted, rfl⟩, rfl, digits, rfl, rfl, fits, rfl⟩ := read
    exact ⟨rfl, digits, rfl, ⟨counted, fits⟩, by simp⟩
  · obtain ⟨rfl, digits, rfl, ⟨counted, fits⟩, rfl⟩ := spelled
    exact ⟨_, _, ⟨counted, rfl⟩, rfl, digits, rfl, rfl, fits, by simp⟩

theorem read_of_spelled {payload : Payload} {parts : List Part} (spelled : payload.Spelled parts)
    (fits : ∀ part ∈ parts, part.Fits) : read payload.kind (join parts) = .ok payload [] := by
  cases spelled with
  | offer position sidContribution =>
    have size : (position.bytes ++ (sidContribution.bytes ++ [])).length =
        4 + Layout.sidContributionSize := by
      simp [position.size_eq, sidContribution.size_eq]
    simp only [join_cons, join_nil, bytes_plain, kind, read]
    rw [bind_of_ok (ensureExact_of_length size),
      bind_of_ok (takeNat_eq_ok.mpr ⟨position, rfl, rfl⟩), bind_of_ok (block_eq_ok.mpr rfl)]
    rfl
  | dakeHandshake ephemeralPublic longTermPublic =>
    simp only [List.forall_mem_cons] at fits
    obtain ⟨firstFits, lastFits, _⟩ := fits
    simp only [join_cons, join_nil, List.append_nil, kind, read]
    rw [bind_of_ok (mpi_eq_ok.mpr ⟨ephemeralPublic, rfl, firstFits, rfl⟩),
      bind_of_ok (lastMpi_eq_ok.mpr ⟨rfl, longTermPublic, rfl, lastFits, rfl⟩)]
    rfl
  | dakeConfirm recipient mac =>
    have size : (recipient.bytes ++ (mac.bytes ++ [])).length = 4 + Layout.macSize := by
      simp [recipient.size_eq, mac.size_eq]
    simp only [join_cons, join_nil, bytes_plain, kind, read]
    rw [bind_of_ok (ensureExact_of_length size),
      bind_of_ok (takeNat_eq_ok.mpr ⟨recipient, rfl, rfl⟩), bind_of_ok (block_eq_ok.mpr rfl)]
    rfl
  | dakeKey recipient mac key =>
    simp only [List.forall_mem_cons] at fits
    obtain ⟨_, _, keyFits, _⟩ := fits
    simp only [join_cons, join_nil, List.append_nil, bytes_plain, kind, read]
    rw [bind_of_ok (uint32_eq_ok.mpr ⟨recipient, rfl, rfl⟩), bind_of_ok (block_eq_ok.mpr rfl),
      bind_of_ok (lastField_eq_ok.mpr ⟨rfl, keyFits, rfl⟩)]
    rfl
  | gkaUpflow recipient keys =>
    have keysFit := (List.forall_mem_cons.mp fits).2
    rw [join_cons, bytes_plain, kind, read]
    rw [bind_of_ok (uint32_eq_ok.mpr ⟨recipient, rfl, rfl⟩),
      bind_of_ok (readKeyList_eq_ok.mpr ⟨rfl, keys, rfl, keysFit, rfl⟩)]
    rfl
  | gkaDownflow keys =>
    rw [kind, read, bind_of_ok (readKeyList_eq_ok.mpr ⟨rfl, keys, rfl, fits, rfl⟩)]
    rfl
  | attest sessionId fingerprint =>
    have size : (sessionId.bytes ++ (fingerprint.bytes ++ [])).length =
        Layout.sessionIdSize + Layout.tableHashSize := by
      simp [sessionId.size_eq, fingerprint.size_eq]
    simp only [join_cons, join_nil, bytes_plain, kind, read]
    rw [bind_of_ok (ensureExact_of_length size), bind_of_ok (block_eq_ok.mpr rfl),
      bind_of_ok (block_eq_ok.mpr rfl)]
    rfl
  | data counter ciphertext =>
    simp only [List.forall_mem_cons] at fits
    obtain ⟨_, ciphertextFits, _⟩ := fits
    simp only [join_cons, join_nil, List.append_nil, bytes_plain, kind, read]
    rw [bind_of_ok (block_eq_ok.mpr rfl),
      bind_of_ok (lastField_eq_ok.mpr ⟨rfl, ciphertextFits, rfl⟩)]
    rfl
  | shutdownShutdown shutdownHash =>
    have size : (shutdownHash.bytes ++ []).length = Layout.participantsHashSize := by
      simp [shutdownHash.size_eq]
    simp only [join_cons, join_nil, bytes_plain, kind, read]
    rw [bind_of_ok (ensureExact_of_length size), bind_of_ok (block_eq_ok.mpr rfl)]
    rfl
  | shutdownDigest digest =>
    have size : (digest.bytes ++ []).length = Layout.participantsHashSize := by
      simp [digest.size_eq]
    simp only [join_cons, join_nil, bytes_plain, kind, read]
    rw [bind_of_ok (ensureExact_of_length size), bind_of_ok (block_eq_ok.mpr rfl)]
    rfl
  | shutdownEnd => rfl
  | shutdownKeyRelease key =>
    simp only [List.forall_mem_cons] at fits
    simp only [join_cons, join_nil, List.append_nil, kind, read]
    rw [bind_of_ok (lastField_eq_ok.mpr ⟨rfl, fits.1, rfl⟩)]
    rfl

theorem spelled_of_read {kind : MessageKind} {payload : Payload}
    (ok : read kind buffer = .ok payload rest) :
    rest = [] ∧ payload.kind = kind ∧
      ∃ parts, payload.Spelled parts ∧ (∀ part ∈ parts, part.Fits) ∧ join parts = buffer := by
  cases kind with
  | notOtr => simp [read, Reader.refuse] at ok
  | offer =>
    simp only [read, bind_eq_ok, ensureExact_eq_ok, takeNat_eq_ok, block_eq_ok, pure_eq_ok] at ok
    obtain ⟨_, _, ⟨size, rfl⟩, _, _, ⟨position, rfl, rfl⟩, sidContribution, left, rfl, rfl, rfl⟩ :=
      ok
    have empty : left = [] := by
      simpa [position.size_eq, sidContribution.size_eq] using size
    subst empty
    exact ⟨rfl, rfl, _, .offer position sidContribution, by simp [Fits], rfl⟩
  | dakeHandshake =>
    simp only [read, bind_eq_ok, mpi_eq_ok, lastMpi_eq_ok, pure_eq_ok] at ok
    obtain ⟨_, _, ⟨ephemeralPublic, rfl, firstFits, rfl⟩, _, _,
      ⟨rfl, longTermPublic, rfl, lastFits, rfl⟩, rfl, rfl⟩ := ok
    refine ⟨rfl, rfl, _, .dakeHandshake ephemeralPublic longTermPublic, ?_, by simp⟩
    simpa using ⟨firstFits, lastFits⟩
  | dakeConfirm =>
    simp only [read, bind_eq_ok, ensureExact_eq_ok, takeNat_eq_ok, block_eq_ok, pure_eq_ok] at ok
    obtain ⟨_, _, ⟨size, rfl⟩, _, _, ⟨recipient, rfl, rfl⟩, mac, left, rfl, rfl, rfl⟩ := ok
    have empty : left = [] := by simpa [recipient.size_eq, mac.size_eq] using size
    subst empty
    exact ⟨rfl, rfl, _, .dakeConfirm recipient mac, by simp [Fits], rfl⟩
  | dakeKey =>
    simp only [read, bind_eq_ok, uint32_eq_ok, block_eq_ok, lastField_eq_ok, pure_eq_ok] at ok
    obtain ⟨_, _, ⟨recipient, rfl, rfl⟩, mac, _, rfl, key, _, ⟨rfl, keyFits, rfl⟩, rfl, rfl⟩ := ok
    refine ⟨rfl, rfl, _, .dakeKey recipient mac key, ?_, by simp [Part.bytes]⟩
    simpa [Fits] using keyFits
  | gkaUpflow =>
    simp only [read, bind_eq_ok, uint32_eq_ok, readKeyList_eq_ok, pure_eq_ok] at ok
    obtain ⟨_, _, ⟨recipient, rfl, rfl⟩, _, _, ⟨rfl, keys, rfl, fits, rfl⟩, rfl, rfl⟩ := ok
    exact ⟨rfl, rfl, _, .gkaUpflow recipient keys, List.forall_mem_cons.mpr ⟨trivial, fits⟩, rfl⟩
  | gkaDownflow =>
    simp only [read, bind_eq_ok, readKeyList_eq_ok, pure_eq_ok] at ok
    obtain ⟨_, _, ⟨rfl, keys, rfl, fits, rfl⟩, rfl, rfl⟩ := ok
    exact ⟨rfl, rfl, _, .gkaDownflow keys, fits, rfl⟩
  | attest =>
    simp only [read, bind_eq_ok, ensureExact_eq_ok, block_eq_ok, pure_eq_ok] at ok
    obtain ⟨_, _, ⟨size, rfl⟩, sessionId, _, rfl, fingerprint, left, rfl, rfl, rfl⟩ := ok
    have empty : left = [] := by simpa [sessionId.size_eq, fingerprint.size_eq] using size
    subst empty
    exact ⟨rfl, rfl, _, .attest sessionId fingerprint, by simp [Fits], rfl⟩
  | data =>
    simp only [read, bind_eq_ok, block_eq_ok, lastField_eq_ok, pure_eq_ok] at ok
    obtain ⟨counter, _, rfl, ciphertext, _, ⟨rfl, fits, rfl⟩, rfl, rfl⟩ := ok
    refine ⟨rfl, rfl, _, .data counter ciphertext, ?_, by simp [Part.bytes]⟩
    simpa [Fits] using fits
  | shutdownShutdown =>
    simp only [read, bind_eq_ok, ensureExact_eq_ok, block_eq_ok, pure_eq_ok] at ok
    obtain ⟨_, _, ⟨size, rfl⟩, shutdownHash, left, rfl, rfl, rfl⟩ := ok
    have empty : left = [] := by simpa [shutdownHash.size_eq] using size
    subst empty
    exact ⟨rfl, rfl, _, .shutdownShutdown shutdownHash, by simp [Fits], rfl⟩
  | shutdownDigest =>
    simp only [read, bind_eq_ok, ensureExact_eq_ok, block_eq_ok, pure_eq_ok] at ok
    obtain ⟨_, _, ⟨size, rfl⟩, digest, left, rfl, rfl, rfl⟩ := ok
    have empty : left = [] := by simpa [digest.size_eq] using size
    subst empty
    exact ⟨rfl, rfl, _, .shutdownDigest digest, by simp [Fits], rfl⟩
  | shutdownEnd =>
    simp only [read, bind_eq_ok, ensureExact_eq_ok, pure_eq_ok] at ok
    obtain ⟨_, _, ⟨size, rfl⟩, rfl, rfl⟩ := ok
    have empty : buffer = [] := List.eq_nil_of_length_eq_zero size
    subst empty
    exact ⟨rfl, rfl, [], .shutdownEnd, by simp, rfl⟩
  | shutdownKeyRelease =>
    simp only [read, bind_eq_ok, lastField_eq_ok, pure_eq_ok] at ok
    obtain ⟨key, _, ⟨rfl, fits, rfl⟩, rfl, rfl⟩ := ok
    exact ⟨rfl, rfl, _, .shutdownKeyRelease key, by simpa using fits, by simp⟩

end GroupChat.Payload

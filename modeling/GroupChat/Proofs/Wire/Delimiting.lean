import GroupChat.Proofs.FrameCodec
import GroupChat.Proofs.Wire.Extent

/-!
Frames delimit themselves. A frame that is cut short lacks something wherever the cut is, and bytes
after a frame are told from it by their number. So no start of an accepted frame is accepted but the
whole of it, and nothing that goes on after one.
-/
namespace GroupChat

open GroupChat.Part Reader

variable {buffer : Bytes}

namespace FrameError

def IsShortage (reason : FrameError) : Prop :=
  reason = tooShort ∨ (∃ expected actual, reason = wrongLength expected actual) ∨
    ∃ declared found, reason = keyCount declared found

/-- What a frame is refused for when `count` bytes follow its last field. -/
def IsOverlong (count : Nat) (reason : FrameError) : Prop :=
  ∃ expected, reason = wrongLength expected (expected + count)

def IsExcess (kind : MessageKind) (count : Nat) (reason : FrameError) : Prop :=
  if kind = .gkaUpflow ∨ kind = .gkaDownflow then reason = trailing count
  else reason.IsOverlong count

theorem isShortage_tooShort : IsShortage tooShort := .inl rfl

end FrameError

open FrameError

namespace FrameReader

theorem takes_block {size : Nat} (value : Block size) :
    Takes IsShortage (block size) value.bytes value :=
  takes_sized isShortage_tooShort value.size_eq fun rest => takeBlock_append value rest

theorem takes_uint32 (digits : Block 4) :
    Takes IsShortage uint32 digits.bytes (.ofNat digits.value) := by
  refine takes_sized isShortage_tooShort digits.size_eq fun rest => ?_
  rw [bind_of_ok (takeNat_eq_ok.mpr ⟨digits, rfl, rfl⟩)]
  rfl

theorem takes_length {size : Nat} (fits : (count size).Fits) :
    Takes IsShortage length (count size).bytes size :=
  Reader.takes_size isShortage_tooShort fits

theorem takes_field {content : Bytes} (fits : (Part.field content).Fits) :
    Takes IsShortage field (Part.field content).bytes content := by
  have size : (count content.length).Fits := fits
  exact (takes_length size).bind (takes_content isShortage_tooShort content)

theorem takes_mpi {digits : Bytes} (fits : (number digits).Fits) :
    Takes IsShortage mpi (number digits).bytes (.ofBytes digits) :=
  (takes_field fits).map Mpi.ofBytes

theorem fills_ensureExact {expected : Nat} (size : buffer.length = expected) :
    Fills IsShortage IsOverlong (ensureExact expected) buffer where
  needs cut start proper := by
    have shorter := length_lt_of_prefix start proper
    refine ⟨.wrongLength expected cut.length, cut, .inr (.inl ⟨_, _, rfl⟩), ?_⟩
    exact if_neg (by omega)
  extended extra present := by
    have longer : (buffer ++ extra).length = expected + extra.length := by
      rw [List.length_append, size]
    refine ⟨.wrongLength expected (expected + extra.length), buffer ++ extra, ⟨_, rfl⟩, ?_⟩
    rw [ensureExact, longer, if_neg (by simpa using present)]

theorem fills_lastField {content : Bytes} (fits : (Part.field content).Fits) :
    Fills IsShortage IsOverlong lastField (Part.field content).bytes := by
  have size : (count content.length).Fits := fits
  exact (takes_length size).fills (fills_ensureExact rfl).bind

theorem fills_lastMpi {digits : Bytes} (fits : (number digits).Fits) :
    Fills IsShortage IsOverlong lastMpi (number digits).bytes :=
  (fills_lastField fits).bind

end FrameReader

namespace Payload

open FrameReader

theorem takes_readKeys {digits : List Bytes} {found : Nat}
    (fits : ∀ part ∈ digits.map number, part.Fits) :
    Takes IsShortage (readKeys digits.length found) (join (digits.map number))
      (digits.map .ofBytes) := by
  induction digits generalizing found with
  | nil => exact takes_pure
  | cons first others ih =>
    obtain ⟨firstFits, othersFit⟩ := List.forall_mem_cons.mp fits
    have size : Layout.lengthSize ≤ ((number first).bytes ++ join (others.map number)).length := by
      simp [Part.bytes, sized]
    refine Takes.ensured ((takes_mpi firstFits).bind ?_) (.inr (.inr ⟨_, _, rfl⟩)) size
    exact (ih othersFit).map (Mpi.ofBytes first :: ·)

theorem fills_readKeyList {digits : List Bytes}
    (fits : ∀ part ∈ count digits.length :: digits.map number, part.Fits) :
    Fills IsShortage (fun count reason => reason = trailing count) readKeyList
      (join (count digits.length :: digits.map number)) := by
  obtain ⟨counted, keysFit⟩ := List.forall_mem_cons.mp fits
  exact (takes_length counted).fills ((takes_readKeys keysFit).toEnd .trailing)

theorem fills_read {payload : Payload} {parts : List Part} (spelled : payload.Spelled parts)
    (fits : ∀ part ∈ parts, part.Fits) :
    Fills IsShortage (IsExcess payload.kind) (read payload.kind) (join parts) := by
  cases spelled with
  | offer position sidContribution =>
    have size : (join [plain position.bytes, plain sidContribution.bytes]).length =
        4 + Layout.sidContributionSize := by
      simp [position.size_eq, sidContribution.size_eq]
    exact (fills_ensureExact size).bind
  | dakeHandshake ephemeralPublic longTermPublic =>
    simp only [List.forall_mem_cons] at fits
    obtain ⟨firstFits, lastFits, _⟩ := fits
    rw [join_cons, join_cons, join_nil, List.append_nil]
    exact (takes_mpi firstFits).fills (fills_lastMpi lastFits).bind
  | dakeConfirm recipient mac =>
    have size : (join [plain recipient.bytes, plain mac.bytes]).length = 4 + Layout.macSize := by
      simp [recipient.size_eq, mac.size_eq]
    exact (fills_ensureExact size).bind
  | dakeKey recipient mac key =>
    simp only [List.forall_mem_cons] at fits
    obtain ⟨_, _, keyFits, _⟩ := fits
    rw [join_cons, join_cons, join_cons, join_nil, List.append_nil]
    exact (takes_uint32 recipient).fills ((takes_block mac).fills (fills_lastField keyFits).bind)
  | gkaUpflow recipient keys =>
    have keysFit := (List.forall_mem_cons.mp fits).2
    rw [join_cons]
    exact (takes_uint32 recipient).fills (fills_readKeyList keysFit).bind
  | gkaDownflow keys => exact (fills_readKeyList fits).bind
  | attest sessionId fingerprint =>
    have size : (join [plain sessionId.bytes, plain fingerprint.bytes]).length =
        Layout.sessionIdSize + Layout.tableHashSize := by
      simp [sessionId.size_eq, fingerprint.size_eq]
    exact (fills_ensureExact size).bind
  | data counter ciphertext =>
    simp only [List.forall_mem_cons] at fits
    obtain ⟨_, ciphertextFits, _⟩ := fits
    rw [join_cons, join_cons, join_nil, List.append_nil]
    exact (takes_block counter).fills (fills_lastField ciphertextFits).bind
  | shutdownShutdown shutdownHash =>
    have size : (join [plain shutdownHash.bytes]).length = Layout.participantsHashSize := by
      simp [shutdownHash.size_eq]
    exact (fills_ensureExact size).bind
  | shutdownDigest digest =>
    have size : (join [plain digest.bytes]).length = Layout.participantsHashSize := by
      simp [digest.size_eq]
    exact (fills_ensureExact size).bind
  | shutdownEnd =>
    have size : (join []).length = 0 := rfl
    exact (fills_ensureExact size).bind
  | shutdownKeyRelease key =>
    simp only [List.forall_mem_cons] at fits
    rw [join_cons, join_nil, List.append_nil]
    exact (fills_lastField fits.1).bind

end Payload

namespace Message

def readHeader : FrameReader (Nat × MessageKind × Nat × Nat) := do
  FrameReader.ensureRemaining Layout.headerSize
  let version ← Reader.takeNat 2
  let tag ← Reader.takeNat 1
  let kind ← readKind (UInt8.ofNat tag)
  let senderInstance ← Reader.takeNat 4
  let chatInstance ← Reader.takeNat 4
  return (version, kind, senderInstance, chatInstance)

theorem read_eq (sender : String) :
    read sender = do
      let (version, kind, senderInstance, chatInstance) ← readHeader
      let sessionId ← readSessionId kind
      let payload ← Payload.read kind
      return {
        version := UInt16.ofNat version
        senderInstance := UInt32.ofNat senderInstance
        chatInstance := UInt32.ofNat chatInstance
        sender
        sessionId
        payload
      } := by
  simp only [read, readHeader, bind_assoc, pure_bind]

theorem takes_readSessionId {kind : MessageKind} {sessionId : Option SessionId}
    (asked : sessionId.isSome = kind.inSession) :
    Takes IsShortage (readSessionId kind) (sessionId.elim [] Block.bytes) sessionId := by
  cases sessionId with
  | none =>
    rw [readSessionId, ← asked]
    exact takes_pure
  | some sessionId =>
    rw [readSessionId, ← asked]
    exact (FrameReader.takes_block sessionId).map some

theorem takes_readHeader {kind : MessageKind} (version : Block 2)
    (senderInstance chatInstance : Block 4) :
    Takes IsShortage readHeader
      (version.bytes ++ ([kind.tag] ++ (senderInstance.bytes ++ chatInstance.bytes)))
      (version.value, kind, senderInstance.value, chatInstance.value) := by
  refine takes_sized isShortage_tooShort ?_ fun rest => ?_
  · simp [version.size_eq, senderInstance.size_eq, chatInstance.size_eq]
  · have tag : kind.tag = UInt8.ofNat kind.tag.toNat := UInt8.ofNat_toNat.symm
    simp only [List.append_assoc]
    rw [bind_of_ok (takeNat_eq_ok.mpr ⟨version, rfl, rfl⟩), bind_of_ok (takeNat_byte kind.tag),
      bind_of_ok (readKind_eq_ok.mpr ⟨tag, rfl⟩),
      bind_of_ok (takeNat_eq_ok.mpr ⟨senderInstance, rfl, rfl⟩),
      bind_of_ok (takeNat_eq_ok.mpr ⟨chatInstance, rfl, rfl⟩)]
    rfl

theorem fills_read {frame : Frame} {message : Message} (legal : frame.IsLegal)
    (spells : frame.Spells message) (sender : String) :
    Fills IsShortage (IsExcess message.kind) (read sender) frame.bytes := by
  have asked : frame.sessionId.isSome = message.kind.inSession := by
    rw [Bool.eq_iff_iff, legal.session, ← spells.tag]
    exact (MessageKind.inSession_iff message.payload.kind_ne_notOtr).symm
  have bytes : frame.bytes =
      (frame.version.bytes ++ ([message.kind.tag] ++
        (frame.senderInstance.bytes ++ frame.chatInstance.bytes))) ++
      (frame.sessionId.elim [] Block.bytes ++ join frame.payload) := by
    simp [Frame.bytes_eq, spells.tag]
  rw [read_eq, bytes]
  refine (takes_readHeader frame.version frame.senderInstance frame.chatInstance).fills ?_
  refine (takes_readSessionId asked).fills ?_
  exact (Payload.fills_read spells.payload legal.fits).bind

/-- Less of an accepted frame is refused as cut short and more of it as too long, whoever the bytes
are said to come from. -/
theorem decode_delimited (bytes : Bytes) (sender other : String) (message : Message)
    (decoded : decode bytes sender = .ok message) :
    (∀ cut, cut <+: bytes → cut ≠ bytes →
      ∃ reason, decode cut other = .error (.refused reason) ∧
        (reason = .tooShort ∨ (∃ expected actual, reason = .wrongLength expected actual) ∨
          ∃ declared found, reason = .keyCount declared found)) ∧
    ∀ extra, extra ≠ [] →
      if message.kind = .gkaUpflow ∨ message.kind = .gkaDownflow then
        decode (bytes ++ extra) other = .error (.refused (.trailing extra.length))
      else
        ∃ expected, decode (bytes ++ extra) other =
          .error (.refused (.wrongLength expected (expected + extra.length))) := by
  obtain ⟨_, frame, rfl, legal, spells⟩ := decode_eq_ok.mp decoded
  have fills := fills_read legal spells other
  refine ⟨fun cut start proper => ?_, fun extra present => ?_⟩
  · obtain ⟨reason, shortage, failed⟩ := (fills.needs cut start proper).eval_eq
    exact ⟨reason, failed, shortage⟩
  · obtain ⟨reason, excess, failed⟩ := (fills.extended extra present).eval_eq
    unfold IsExcess at excess
    split at excess
    case isTrue counted =>
      subst excess
      rwa [if_pos counted]
    case isFalse uncounted =>
      obtain ⟨expected, rfl⟩ := excess
      rw [if_neg uncounted]
      exact ⟨expected, failed⟩

def upflowFrame : Bytes :=
  [0, 4, 5, 0, 0, 0x10, 0, 0, 0, 1, 0] ++ List.replicate 32 5 ++
    [0, 0, 0, 3, 0, 0, 0, 2, 0, 0, 0, 1, 9, 0, 0, 0, 0]

def upflow : Message where
  version := 4
  senderInstance := 0x1000
  chatInstance := 0x100
  sender := "bob"
  sessionId := some ⟨List.replicate 32 5, rfl⟩
  payload := .gkaUpflow 3 [.ofBytes [9], .ofBytes []]

theorem decode_delimited_upflow :
    decode upflowFrame "bob" = .ok upflow ∧
      (∃ reason, decode (upflowFrame.take 56) "bob" = .error (.refused reason) ∧
        (reason = .tooShort ∨ (∃ expected actual, reason = .wrongLength expected actual) ∨
          ∃ declared found, reason = .keyCount declared found)) ∧
      decode (upflowFrame ++ [0]) "bob" = .error (.refused (.trailing 1)) := by
  have decoded : decode upflowFrame "bob" = .ok upflow := rfl
  obtain ⟨shortened, extended⟩ := decode_delimited _ _ "bob" _ decoded
  have boundary : upflowFrame.take 56 ≠ upflowFrame := by decide
  exact ⟨decoded, shortened _ (List.take_prefix 56 _) boundary, extended [0] (by simp)⟩

/-- Two keys are announced and the frame ends after the first. -/
example :
    decode ([0, 4, 6, 0, 0, 0x10, 0, 0, 0, 1, 0] ++ List.replicate 32 7 ++
      [0, 0, 0, 2, 0, 0, 0, 1, 9]) "bob" = .error (.refused (.keyCount 2 1)) := rfl

end Message

end GroupChat

import GroupChat.Message
import GroupChat.Proofs.Wire.Writing

/-!
The shape of a frame on the wire: version, tag, the instances of sender and chat, the session id
where the tag asks for one, and the parts of a payload up to the end. A message is read from the
bytes of the frames that spell it and from no others, and it is written as one of them.
-/
namespace GroupChat

open GroupChat.Part

@[ext] structure Frame where
  version : Block 2
  tag : UInt8
  senderInstance : Block 4
  chatInstance : Block 4
  sessionId : Option SessionId
  payload : List Part

namespace Frame

def bytes (frame : Frame) : Bytes :=
  frame.version.bytes ++ frame.tag :: frame.senderInstance.bytes ++ frame.chatInstance.bytes ++
    frame.sessionId.elim [] Block.bytes ++ join frame.payload

theorem bytes_eq (frame : Frame) :
    frame.bytes =
      frame.version.bytes ++ ([frame.tag] ++ (frame.senderInstance.bytes ++
        (frame.chatInstance.bytes ++
          (frame.sessionId.elim [] Block.bytes ++ join frame.payload)))) := by
  simp [bytes]

theorem bytes_tagOffset (frame : Frame) : frame.bytes[Layout.tagOffset]? = some frame.tag := by
  have size : frame.version.bytes.length = Layout.tagOffset := frame.version.size_eq
  rw [bytes_eq, List.getElem?_append_right (Nat.le_of_eq size), size, Nat.sub_self]
  rfl

/-- What the format asks of a frame. An offer has tag 1. -/
structure IsLegal (frame : Frame) : Prop where
  tag_pos : 1 ≤ frame.tag
  tag_le : frame.tag ≤ 12
  session : frame.sessionId.isSome ↔ frame.tag ≠ 1
  shape : ∃ payload : Payload, payload.kind.tag = frame.tag ∧ payload.Spelled frame.payload
  fits : ∀ part ∈ frame.payload, part.Fits

/-- Every field of the message is read from its place in the frame. -/
structure Spells (frame : Frame) (message : Message) : Prop where
  version : message.version = .ofNat frame.version.value
  tag : message.kind.tag = frame.tag
  senderInstance : message.senderInstance = .ofNat frame.senderInstance.value
  chatInstance : message.chatInstance = .ofNat frame.chatInstance.value
  sessionId : message.sessionId = frame.sessionId
  payload : message.payload.Spelled frame.payload

def strip (frame : Frame) : Frame := { frame with payload := frame.payload.map Part.strip }

end Frame

theorem MessageKind.tag_bounds {kind : MessageKind} (carried : kind ≠ .notOtr) :
    1 ≤ kind.tag ∧ kind.tag ≤ 12 := by
  revert carried
  cases kind <;> decide

theorem MessageKind.inSession_iff {kind : MessageKind} (carried : kind ≠ .notOtr) :
    kind.inSession ↔ kind.tag ≠ 1 := by
  revert carried
  cases kind <;> decide

theorem MessageKind.inSession_iff_ne_offer {kind : MessageKind} (carried : kind ≠ .notOtr) :
    kind.inSession ↔ kind ≠ .offer := by
  revert carried
  cases kind <;> decide

namespace Message

variable {buffer rest : Bytes}

theorem readKind_eq_ok {tag : UInt8} {kind : MessageKind} :
    readKind tag buffer = .ok kind rest ↔ kind.tag = tag ∧ buffer = rest := by
  unfold readKind
  cases found : MessageKind.ofTag? tag with
  | none =>
    have unknown : kind.tag ≠ tag := fun same => by
      rw [MessageKind.ofTag?_eq_some.mpr same] at found
      contradiction
    simp [Reader.refuse, unknown]
  | some known =>
    rw [pure_eq_ok, ← MessageKind.ofTag?_eq_some, found, Option.some.injEq]

theorem peekKind_eq_ok {kind : MessageKind} :
    peekKind buffer = .ok kind ↔ buffer[Layout.tagOffset]? = some kind.tag := by
  unfold peekKind
  cases buffer[Layout.tagOffset]? with
  | none => simp
  | some tag =>
    simp only [Option.some.injEq, eq_comm (a := tag), ← MessageKind.ofTag?_eq_some]
    cases MessageKind.ofTag? tag <;> simp

theorem readSessionId_eq_ok {kind : MessageKind} {sessionId : Option SessionId} :
    readSessionId kind buffer = .ok sessionId rest ↔
      sessionId.isSome = kind.inSession ∧ buffer = sessionId.elim [] Block.bytes ++ rest := by
  unfold readSessionId
  by_cases inSession : kind.inSession
  · simp only [inSession, if_true, map_eq_ok, FrameReader.block_eq_ok]
    cases sessionId <;> simp
  · rw [if_neg inSession, pure_eq_ok]
    cases sessionId <;> simp [inSession]

theorem read_of_spells {frame : Frame} {message : Message} (legal : frame.IsLegal)
    (spells : frame.Spells message) : read message.sender frame.bytes = .ok message [] := by
  have carried := message.payload.kind_ne_notOtr
  have session : frame.sessionId.isSome = message.kind.inSession := by
    rw [Bool.eq_iff_iff, legal.session, ← spells.tag]
    exact (MessageKind.inSession_iff carried).symm
  have size : Layout.headerSize ≤ frame.bytes.length := by
    simp only [Frame.bytes_eq, List.length_append, Block.size_eq, List.length_singleton,
      Layout.headerSize]
    omega
  have tag : message.kind.tag = UInt8.ofNat frame.tag.toNat := by
    rw [spells.tag, UInt8.ofNat_toNat]
  rw [read, FrameReader.ensureRemaining, bind_of_ok (ensure_of_le size), Frame.bytes_eq,
    bind_of_ok (takeNat_eq_ok.mpr ⟨frame.version, rfl, rfl⟩),
    bind_of_ok (takeNat_byte frame.tag), bind_of_ok (readKind_eq_ok.mpr ⟨tag, rfl⟩),
    bind_of_ok (takeNat_eq_ok.mpr ⟨frame.senderInstance, rfl, rfl⟩),
    bind_of_ok (takeNat_eq_ok.mpr ⟨frame.chatInstance, rfl, rfl⟩),
    bind_of_ok (readSessionId_eq_ok.mpr ⟨session, rfl⟩), Message.kind,
    bind_of_ok (Payload.read_of_spelled spells.payload legal.fits),
    ← spells.version, ← spells.senderInstance, ← spells.chatInstance, ← spells.sessionId]
  rfl

theorem spells_of_read {sender : String} {message : Message}
    (ok : read sender buffer = .ok message rest) :
    rest = [] ∧ message.sender = sender ∧
      ∃ frame : Frame, frame.bytes = buffer ∧ frame.IsLegal ∧ frame.Spells message := by
  simp only [read, FrameReader.ensureRemaining, bind_eq_ok, ensure_eq_ok, takeNat_eq_ok,
    readKind_eq_ok, readSessionId_eq_ok, pure_eq_ok] at ok
  obtain ⟨_, _, ⟨_, rfl⟩, _, _, ⟨version, rfl, rfl⟩, _, _, ⟨tag, rfl, rfl⟩, kind, _,
    ⟨tag_eq, rfl⟩, _, _, ⟨senderInstance, rfl, rfl⟩, _, _, ⟨chatInstance, rfl, rfl⟩, sessionId, _,
    ⟨session, rfl⟩, payload, _, payloadRead, rfl, rfl⟩ := ok
  obtain ⟨rfl, rfl, parts, spelled, fits, rfl⟩ := Payload.spelled_of_read payloadRead
  have carried := payload.kind_ne_notOtr
  obtain ⟨tag_pos, tag_le⟩ := MessageKind.tag_bounds carried
  let frame : Frame :=
    ⟨version, payload.kind.tag, senderInstance, chatInstance, sessionId, parts⟩
  have tagBytes : tag.bytes = [payload.kind.tag] := by
    obtain ⟨byte, bytes_eq⟩ := List.length_eq_one_iff.mp tag.size_eq
    rw [tag_eq, bytes_eq, Block.value, bytes_eq]
    simp [BigEndian.decode, BigEndian.capacity]
  refine ⟨rfl, rfl, frame, ?_, ?_, ?_⟩
  · rw [Frame.bytes_eq, tagBytes]
  · exact {
      tag_pos
      tag_le
      session := by rw [session, MessageKind.inSession_iff carried]
      shape := ⟨payload, rfl, spelled⟩
      fits
    }
  · exact ⟨rfl, rfl, rfl, rfl, rfl, spelled⟩

theorem decode_eq_ok {bytes : Bytes} {sender : String} {message : Message} :
    decode bytes sender = .ok message ↔
      message.sender = sender ∧
        ∃ frame : Frame, frame.bytes = bytes ∧ frame.IsLegal ∧ frame.Spells message := by
  rw [decode, eval_eq_ok]
  refine ⟨fun ok => ?_, fun framed => ?_⟩
  · obtain ⟨rest, ok⟩ := ok
    exact (spells_of_read ok).2
  · obtain ⟨rfl, frame, rfl, legal, spells⟩ := framed
    exact ⟨[], read_of_spells legal spells⟩

def frame (message : Message) : Frame where
  version := .ofValue 2 message.version.toNat
  tag := message.kind.tag
  senderInstance := .ofValue 4 message.senderInstance.toNat
  chatInstance := .ofValue 4 message.chatInstance.toNat
  sessionId := if message.kind.inSession then message.sessionId else none
  payload := message.payload.parts

theorem bytes_frame (message : Message) :
    message.frame.bytes =
      BigEndian.encode 2 message.version.toNat ++ BigEndian.encode 1 message.kind.tag.toNat ++
        BigEndian.encode 4 message.senderInstance.toNat ++
        BigEndian.encode 4 message.chatInstance.toNat ++
        (if message.kind.inSession then message.sessionId else none).elim [] Block.bytes ++
        join message.payload.parts := by
  have tag : BigEndian.encode 1 message.kind.tag.toNat = [message.kind.tag] := by
    simp [BigEndian.encode, BigEndian.capacity]
  rw [tag]
  simp [Frame.bytes, frame, Block.ofValue]

theorem frame_of_spells {frame : Frame} {message : Message} (legal : frame.IsLegal)
    (spells : frame.Spells message) : message.frame = frame.strip := by
  have inSession := MessageKind.inSession_iff message.payload.kind_ne_notOtr
  apply Frame.ext
  · rw [Message.frame, spells.version, Block.ofValue_uint16, Frame.strip]
  · exact spells.tag
  · rw [Message.frame, spells.senderInstance, Block.ofValue_uint32, Frame.strip]
  · rw [Message.frame, spells.chatInstance, Block.ofValue_uint32, Frame.strip]
  · by_cases asked : message.kind.inSession
    · simp only [Message.frame, asked, if_true, spells.sessionId, Frame.strip]
    · have absent : frame.sessionId = none := by
        rw [← Option.not_isSome_iff_eq_none, legal.session, ← spells.tag]
        exact fun other => asked (inSession.mpr other)
      simp only [Message.frame, if_neg asked, Frame.strip, absent]
  · exact Payload.parts_of_spelled spells.payload

theorem requiredSessionId_eq_ok {kind : MessageKind} {sessionId required : Option SessionId} :
    requiredSessionId kind sessionId = .ok required ↔
      (kind.inSession → sessionId.isSome) ∧
        (if kind.inSession then sessionId else none) = required := by
  unfold requiredSessionId
  by_cases asked : kind.inSession
  · cases sessionId <;> simp [asked]
  · simp [asked]

theorem requiredSessionId_eq_error {kind : MessageKind} {sessionId : Option SessionId}
    {error : FrameError} :
    requiredSessionId kind sessionId = .error error ↔
      kind.inSession ∧ sessionId = none ∧ error = .noSessionId kind := by
  unfold requiredSessionId
  by_cases asked : kind.inSession
  · cases sessionId <;> simp [asked, eq_comm]
  · simp [asked]

theorem write_eq_ok {message : Message} {buffer final : Bytes} {result : Unit} :
    message.write buffer = .ok result final ↔
      (message.kind.inSession → message.sessionId.isSome) ∧
        (∀ part ∈ message.payload.parts, part.Fits) ∧ final = buffer ++ message.frame.bytes := by
  simp only [write, bind_eq_ok, Writer.ofExcept_eq_ok, requiredSessionId_eq_ok, Writer.putNat,
    Writer.put_eq_ok, Payload.write_eq, putAll_eq_ok]
  refine ⟨fun written => ?_, fun spelled => ?_⟩
  · obtain ⟨_, _, ⟨⟨session, rfl⟩, rfl⟩, _, _, rfl, _, _, rfl, _, _, rfl, _, _, rfl, _, _, rfl,
      fits, rfl⟩ := written
    exact ⟨session, fits, by simp only [bytes_frame, List.append_assoc]⟩
  · obtain ⟨session, fits, rfl⟩ := spelled
    exact ⟨_, _, ⟨⟨session, rfl⟩, rfl⟩, (), _, rfl, (), _, rfl, (), _, rfl, (), _, rfl, (), _, rfl,
      fits, by simp only [bytes_frame, List.append_assoc]⟩

theorem encode_eq_ok {message : Message} {bytes : Bytes} :
    message.encode = .ok bytes ↔
      (message.kind.inSession → message.sessionId.isSome) ∧
        (∀ part ∈ message.payload.parts, part.Fits) ∧ bytes = message.frame.bytes := by
  rw [encode, Writer.written_eq_ok, write_eq_ok, List.nil_append]

end Message

end GroupChat

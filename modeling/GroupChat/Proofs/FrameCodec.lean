import GroupChat.Proofs.Wire.FrameShape

/-!
Reading and writing whole frames. Reading accepts the legal frames and nothing else, it undoes
writing, and two frames are read as one message only if they differ in the zero bytes before their
numbers and in the lengths that count these.
-/
namespace GroupChat

open GroupChat.Part

namespace Frame

variable {frame : Frame} {message : Message}

theorem exists_spells (legal : frame.IsLegal) (sender : String) :
    ∃ message : Message, message.sender = sender ∧ frame.Spells message := by
  obtain ⟨payload, tag, spelled⟩ := legal.shape
  let message : Message := {
    version := .ofNat frame.version.value
    senderInstance := .ofNat frame.senderInstance.value
    chatInstance := .ofNat frame.chatInstance.value
    sender
    sessionId := frame.sessionId
    payload
  }
  exact ⟨message, rfl, rfl, tag, rfl, rfl, rfl, spelled⟩

theorem decode_bytes (legal : frame.IsLegal) (spells : frame.Spells message) :
    Message.decode frame.bytes message.sender = .ok message :=
  Message.decode_eq_ok.mpr ⟨rfl, frame, rfl, legal, spells⟩

theorem spells_of_decode {sender : String} (legal : frame.IsLegal)
    (decoded : Message.decode frame.bytes sender = .ok message) : frame.Spells message := by
  obtain ⟨spelled, rfl, spells⟩ := exists_spells legal sender
  have same := decode_bytes legal spells
  rw [decoded, Except.ok.injEq] at same
  rwa [same]

theorem isLegal_strip (legal : frame.IsLegal) : frame.strip.IsLegal where
  tag_pos := legal.tag_pos
  tag_le := legal.tag_le
  session := legal.session
  shape := by
    obtain ⟨payload, tag, spelled⟩ := legal.shape
    refine ⟨payload, tag, ?_⟩
    rw [strip, ← Payload.parts_of_spelled spelled]
    exact payload.spelled_parts
  fits := by
    intro part member
    obtain ⟨original, present, rfl⟩ := List.mem_map.mp member
    exact fits_strip (legal.fits original present)

theorem spells_strip (spells : frame.Spells message) : frame.strip.Spells message where
  version := spells.version
  tag := spells.tag
  senderInstance := spells.senderInstance
  chatInstance := spells.chatInstance
  sessionId := spells.sessionId
  payload := by
    rw [strip, ← Payload.parts_of_spelled spells.payload]
    exact message.payload.spelled_parts

theorem length_bytes_strip_le (frame : Frame) :
    frame.strip.bytes.length ≤ frame.bytes.length := by
  have shorter := length_join_strip_le frame.payload
  simp only [bytes, strip, List.length_append]
  omega

theorem bytes_strip_eq_iff (frame : Frame) :
    frame.strip.bytes = frame.bytes ↔ ∀ part ∈ frame.payload, ¬ part.IsPadded := by
  rw [← join_strip_eq_iff]
  exact List.append_right_inj _

end Frame

namespace Message

theorem encode_of_spells {frame : Frame} {message : Message} (legal : frame.IsLegal)
    (spells : frame.Spells message) : message.encode = .ok frame.strip.bytes := by
  have inSession := MessageKind.inSession_iff message.payload.kind_ne_notOtr
  refine encode_eq_ok.mpr ⟨fun asked => ?_, ?_, by rw [frame_of_spells legal spells]⟩
  · rw [spells.sessionId, legal.session, ← spells.tag]
    exact inSession.mp asked
  · rw [Payload.parts_of_spelled spells.payload]
    exact (Frame.isLegal_strip legal).fits

theorem frame_isLegal {message : Message}
    (session : message.kind.inSession → message.sessionId.isSome)
    (fits : ∀ part ∈ message.payload.parts, part.Fits) : message.frame.IsLegal where
  tag_pos := (MessageKind.tag_bounds message.payload.kind_ne_notOtr).1
  tag_le := (MessageKind.tag_bounds message.payload.kind_ne_notOtr).2
  session := by
    rw [frame, kind, ← MessageKind.inSession_iff message.payload.kind_ne_notOtr]
    by_cases asked : message.payload.kind.inSession
    · simpa [asked] using session asked
    · simp [asked]
  shape := ⟨message.payload, rfl, message.payload.spelled_parts⟩
  fits

theorem frame_spells (message : Message) :
    message.frame.Spells
      (if message.kind = .offer then { message with sessionId := none } else message) := by
  have version := (Block.uint16_ofValue message.version).symm
  have senderInstance := (Block.uint32_ofValue message.senderInstance).symm
  have chatInstance := (Block.uint32_ofValue message.chatInstance).symm
  have spelled := message.payload.spelled_parts
  by_cases offered : message.kind = .offer
  · have absent : message.frame.sessionId = none := by simp [frame, offered, MessageKind.inSession]
    rw [if_pos offered]
    exact ⟨version, rfl, senderInstance, chatInstance, absent.symm, spelled⟩
  · have kept : message.frame.sessionId = message.sessionId :=
      if_pos ((MessageKind.inSession_iff_ne_offer message.payload.kind_ne_notOtr).mpr offered)
    rw [if_neg offered]
    exact ⟨version, rfl, senderInstance, chatInstance, kept.symm, spelled⟩

theorem decode_frame {message : Message}
    (session : message.kind.inSession → message.sessionId.isSome)
    (fits : ∀ part ∈ message.payload.parts, part.Fits) :
    decode message.frame.bytes message.sender =
      .ok (if message.kind = .offer then { message with sessionId := none } else message) := by
  refine decode_eq_ok.mpr ⟨?_, message.frame, rfl, frame_isLegal session fits, message.frame_spells⟩
  split <;> rfl

/-- Reading undoes writing, but for the session id of an offer. -/
theorem decode_encoded (message : Message) (bytes : Bytes) (encoded : message.encode = .ok bytes) :
    decode bytes message.sender =
      .ok (if message.kind = .offer then { message with sessionId := none } else message) := by
  obtain ⟨session, fits, rfl⟩ := encode_eq_ok.mp encoded
  exact decode_frame session fits

theorem decode_encode_attest {message : Message} {sessionId : SessionId}
    {tableHash : Block Layout.tableHashSize} (session : message.sessionId.isSome)
    (payload : message.payload = .attest sessionId tableHash) :
    message.encode = .ok message.frame.bytes ∧
      decode message.frame.bytes message.sender = .ok message := by
  have fits : ∀ part ∈ message.payload.parts, part.Fits := by
    simp [payload, Payload.parts, Part.Fits]
  have kind : message.kind ≠ .offer := by
    rw [Message.kind, payload]
    exact MessageKind.noConfusion
  refine ⟨encode_eq_ok.mpr ⟨fun _ => session, fits, rfl⟩, ?_⟩
  rw [decode_frame (fun _ => session) fits, if_neg kind]

def namedOffer : Message where
  version := 4
  senderInstance := 0x1000
  chatInstance := 0x100
  sender := "alice"
  sessionId := some (.zero _)
  payload := .offer 3 (.zero _)

def namedOfferFrame : Bytes :=
  [0, 4, 1, 0, 0, 0x10, 0, 0, 0, 1, 0, 0, 0, 0, 3] ++ List.replicate 32 0

theorem decode_encoded_offer :
    namedOffer.encode = .ok namedOfferFrame ∧
      decode namedOfferFrame "alice" = .ok { namedOffer with sessionId := none } :=
  ⟨rfl, decode_encoded namedOffer namedOfferFrame rfl⟩

/-- Reading accepts the bytes of legal frames and nothing else. What is read off a frame leaves
nothing of it, and every field of the message stands in its place there. -/
theorem decode_accepts_iff (bytes : Bytes) (sender : String) :
    ((∃ message, decode bytes sender = .ok message) ↔
      ∃ frame : Frame, frame.bytes = bytes ∧ frame.IsLegal) ∧
    ∀ message, decode bytes sender = .ok message →
      read sender bytes = .ok message [] ∧ message.sender = sender ∧
        (message.sessionId.isSome ↔ message.kind.inSession) ∧
        ∀ frame : Frame, frame.bytes = bytes → frame.IsLegal → frame.Spells message := by
  refine ⟨⟨fun accepted => ?_, fun framed => ?_⟩, fun message decoded => ?_⟩
  · obtain ⟨message, decoded⟩ := accepted
    obtain ⟨_, frame, same, legal, _⟩ := decode_eq_ok.mp decoded
    exact ⟨frame, same, legal⟩
  · obtain ⟨frame, rfl, legal⟩ := framed
    obtain ⟨message, rfl, spells⟩ := Frame.exists_spells legal sender
    exact ⟨message, Frame.decode_bytes legal spells⟩
  · obtain ⟨rfl, frame, rfl, legal, spells⟩ := decode_eq_ok.mp decoded
    refine ⟨read_of_spells legal spells, rfl, ?_, fun other same otherLegal => ?_⟩
    · rw [spells.sessionId, legal.session, ← spells.tag]
      exact (MessageKind.inSession_iff message.payload.kind_ne_notOtr).symm
    · rw [← same] at decoded
      exact Frame.spells_of_decode otherLegal decoded

/-- Writing undoes reading up to the zero bytes before numbers. They are all that frames which are
read as one message can differ in, next to the lengths that count them. -/
theorem encode_decoded (bytes : Bytes) (sender : String) (message : Message)
    (decoded : decode bytes sender = .ok message) :
    ∃ written, message.encode = .ok written ∧ decode written sender = .ok message ∧
      written.length ≤ bytes.length ∧
      (∃ frame : Frame, frame.bytes = bytes ∧ frame.IsLegal) ∧
      ∀ frame : Frame, frame.bytes = bytes → frame.IsLegal →
        written = frame.strip.bytes ∧
        (written = bytes ↔ ∀ part ∈ frame.payload, ¬ part.IsPadded) ∧
        ∀ other, decode other sender = .ok message ↔
          ∃ otherFrame : Frame, otherFrame.bytes = other ∧ otherFrame.IsLegal ∧
            otherFrame.strip = frame.strip := by
  obtain ⟨rfl, source, rfl, sourceLegal, sourceSpells⟩ := decode_eq_ok.mp decoded
  refine ⟨source.strip.bytes, encode_of_spells sourceLegal sourceSpells,
    Frame.decode_bytes (Frame.isLegal_strip sourceLegal) (Frame.spells_strip sourceSpells),
    source.length_bytes_strip_le, ⟨source, rfl, sourceLegal⟩, fun frame same legal => ?_⟩
  rw [← same] at decoded
  have spells := Frame.spells_of_decode legal decoded
  have stripped : source.strip = frame.strip := by
    rw [← frame_of_spells sourceLegal sourceSpells, ← frame_of_spells legal spells]
  refine ⟨by rw [stripped], ?_, fun other => ⟨fun otherDecoded => ?_, fun framed => ?_⟩⟩
  · rw [stripped, ← same]
    exact frame.bytes_strip_eq_iff
  · obtain ⟨_, otherFrame, rfl, otherLegal, otherSpells⟩ := decode_eq_ok.mp otherDecoded
    refine ⟨otherFrame, rfl, otherLegal, ?_⟩
    rw [← frame_of_spells otherLegal otherSpells, ← frame_of_spells legal spells]
  · -- Both messages are read from the bytes that the two frames share once they are stripped.
    obtain ⟨otherFrame, rfl, otherLegal, otherStripped⟩ := framed
    obtain ⟨read, sender, otherSpells⟩ := Frame.exists_spells otherLegal message.sender
    have first :=
      Frame.decode_bytes (Frame.isLegal_strip otherLegal) (Frame.spells_strip otherSpells)
    have second := Frame.decode_bytes (Frame.isLegal_strip legal) (Frame.spells_strip spells)
    rw [sender, otherStripped, second, Except.ok.injEq] at first
    rw [← sender, first]
    exact Frame.decode_bytes otherLegal (first ▸ otherSpells)

/-- A handshake with the numbers 5 and 0, which stand there as `00 00 05` and `00`. -/
def paddedHandshake : Bytes :=
  [0, 4, 2, 0, 0, 0x10, 0, 0, 0, 1, 0] ++ List.replicate 32 7 ++
    [0, 0, 0, 3, 0, 0, 5, 0, 0, 0, 1, 0]

def handshake : Message where
  version := 4
  senderInstance := 0x1000
  chatInstance := 0x100
  sender := "bob"
  sessionId := some ⟨List.replicate 32 7, rfl⟩
  payload := .dakeHandshake (.ofBytes [5]) (.ofBytes [])

theorem encode_decoded_padded :
    decode paddedHandshake "bob" = .ok handshake ∧
      ∃ written, handshake.encode = .ok written ∧ decode written "bob" = .ok handshake ∧
        written.length ≤ paddedHandshake.length := by
  have decoded : decode paddedHandshake "bob" = .ok handshake := rfl
  obtain ⟨written, encoded, again, shorter, _⟩ := encode_decoded _ _ _ decoded
  exact ⟨decoded, written, encoded, again, shorter⟩

end Message

end GroupChat

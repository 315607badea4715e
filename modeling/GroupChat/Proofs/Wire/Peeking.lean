import GroupChat.Proofs.Wire.Delimiting

/-!
The header of a frame read in two ways. Peeking looks at the bytes that stand in the places of the
kind and the session id, whatever the rest of the frame is. A message is read from the front on, and
its kind decides what comes next. Whoever goes by what was peeked goes where the message goes, and
meets the error that reading meets.
-/
namespace GroupChat

open GroupChat.Part Reader

variable {buffer : Bytes}

theorem refuses_block_drop {start size : Nat} (inside : start ≤ buffer.length)
    (short : buffer.length < start + size) :
    (FrameReader.block size).Refuses (Eq .tooShort) (buffer.drop start) := by
  have lacking : (buffer.drop start).length < size := by
    rw [List.length_drop]
    omega
  exact (refuses_ensure lacking rfl).bind

theorem takeNat_of_le {ε : Type} {width : Nat} (present : width ≤ buffer.length) :
    (takeNat width : Reader ε _) buffer =
      .ok (BigEndian.decode (buffer.take width)) (buffer.drop width) := by
  refine takeNat_eq_ok.mpr ⟨⟨buffer.take width, List.length_take_of_le present⟩, rfl, ?_⟩
  exact (List.take_append_drop width buffer).symm

namespace Frame

theorem drop_bytes (frame : Frame) :
    frame.bytes.drop Layout.headerSize =
      frame.sessionId.elim [] Block.bytes ++ join frame.payload := by
  have bytes : frame.bytes =
      (frame.version.bytes ++ frame.tag :: frame.senderInstance.bytes ++ frame.chatInstance.bytes) ++
        (frame.sessionId.elim [] Block.bytes ++ join frame.payload) := by
    simp [Frame.bytes]
  rw [bytes]
  refine List.drop_left' ?_
  simp [frame.version.size_eq, frame.senderInstance.size_eq, frame.chatInstance.size_eq]

end Frame

namespace Payload

theorem join_of_offer {position : UInt32} {contribution : Block Layout.sidContributionSize}
    {parts : List Part} (spelled : (offer position contribution).Spelled parts) :
    join parts = BigEndian.encode 4 position.toNat ++ contribution.bytes := by
  cases spelled with
  | offer digits =>
    have position : BigEndian.encode 4 (UInt32.ofNat digits.value).toNat = digits.bytes :=
      congrArg Block.bytes (Block.ofValue_uint32 digits)
    rw [position, join_cons, join_cons, join_nil, List.append_nil]
    rfl

end Payload

namespace Message

variable {kind : MessageKind} {reason : FrameError} {tag : UInt8} {sender : String}

theorem peekKind_eq_error :
    peekKind buffer = .error reason ↔
      (buffer.length ≤ Layout.tagOffset ∧ reason = .tooShort) ∨
        ∃ tag, buffer[Layout.tagOffset]? = some tag ∧ 12 < tag ∧ reason = .unknownTag tag := by
  unfold peekKind
  cases place : buffer[Layout.tagOffset]? with
  | none =>
    have short := List.getElem?_eq_none_iff.mp place
    simp [short, eq_comm]
  | some tag =>
    have present := (List.getElem?_eq_some_iff.mp place).choose
    simp only [Nat.not_le.mpr present, Option.some.injEq, exists_eq_left',
      ← MessageKind.ofTag?_eq_none, false_and, false_or]
    cases MessageKind.ofTag? tag <;> simp [eq_comm]

theorem peekSessionId_eq_ok {sessionId : SessionId} :
    peekSessionId buffer = .ok sessionId ↔
      ∃ rest, buffer.drop Layout.headerSize = sessionId.bytes ++ rest := by
  unfold peekSessionId
  split
  case isTrue short =>
    have nothing : buffer.drop Layout.headerSize = [] := List.drop_eq_nil_of_le (by omega)
    have something : sessionId.bytes ≠ [] := List.ne_nil_of_length_pos (by simp [sessionId.size_eq])
    simp [nothing, something]
  case isFalse present =>
    simp only [eval_eq_ok, FrameReader.block_eq_ok]

theorem peekSessionId_of_short (short : buffer.length < Layout.headerSize + Layout.sessionIdSize) :
    peekSessionId buffer = .error (.refused .tooShort) := by
  unfold peekSessionId
  split
  case isTrue => rfl
  case isFalse present =>
    exact (refuses_block_drop (Nat.le_of_not_lt present) short).eval_refused

theorem peekSessionId_eq_error_iff :
    (∃ error, peekSessionId buffer = .error error) ↔
      buffer.length < Layout.headerSize + Layout.sessionIdSize := by
  refine ⟨fun failed => ?_, fun short => ⟨_, peekSessionId_of_short short⟩⟩
  obtain ⟨error, failed⟩ := failed
  refine Nat.lt_of_not_le fun present => ?_
  have room : Layout.sessionIdSize ≤ (buffer.drop Layout.headerSize).length := by
    rw [List.length_drop]
    omega
  have peeked : peekSessionId buffer = .ok ⟨_, List.length_take_of_le room⟩ :=
    peekSessionId_eq_ok.mpr ⟨_, (List.take_append_drop _ _).symm⟩
  rw [peeked] at failed
  contradiction

theorem readHeader_eq (present : Layout.headerSize ≤ buffer.length)
    (place : buffer[Layout.tagOffset]? = some tag) :
    readHeader buffer = (do
      let kind ← readKind tag
      let senderInstance ← Reader.takeNat 4
      let chatInstance ← Reader.takeNat 4
      return (BigEndian.decode (buffer.take 2), kind, senderInstance, chatInstance))
        (buffer.drop 3) := by
  obtain ⟨inside, tag_eq⟩ := List.getElem?_eq_some_iff.mp place
  have fromTag : buffer.drop 2 = [tag] ++ buffer.drop 3 := by
    rw [List.drop_eq_getElem_cons inside, tag_eq]
    rfl
  have version : 2 ≤ buffer.length := Nat.le_trans (by decide) present
  rw [readHeader, FrameReader.ensureRemaining, bind_of_ok (ensure_of_le present),
    bind_of_ok (takeNat_of_le version), fromTag, bind_of_ok (takeNat_byte tag),
    UInt8.ofNat_toNat]

theorem readHeader_of_peeked (present : Layout.headerSize ≤ buffer.length)
    (peeked : peekKind buffer = .ok kind) :
    ∃ version senderInstance chatInstance,
      readHeader buffer =
        .ok (version, kind, senderInstance, chatInstance) (buffer.drop Layout.headerSize) := by
  have room : 3 + (4 + 4) ≤ buffer.length := present
  rw [readHeader_eq present (peekKind_eq_ok.mp peeked), bind_of_ok (readKind_eq_ok.mpr ⟨rfl, rfl⟩),
    bind_of_ok (takeNat_of_le (by simp only [List.length_drop]; omega)),
    bind_of_ok (takeNat_of_le (by simp only [List.length_drop]; omega)), List.drop_drop,
    List.drop_drop]
  exact ⟨_, _, _, rfl⟩

theorem refuses_readHeader_of_short (short : buffer.length < Layout.headerSize) :
    readHeader.Refuses (Eq .tooShort) buffer :=
  (refuses_ensure short rfl).bind

theorem refuses_readHeader_of_peeked (present : Layout.headerSize ≤ buffer.length)
    (peeked : peekKind buffer = .error reason) : readHeader.Refuses (Eq reason) buffer := by
  obtain ⟨short, -⟩ | ⟨tag, place, unknown, rfl⟩ := peekKind_eq_error.mp peeked
  · exact absurd present (Nat.not_le.mpr (Nat.lt_of_le_of_lt short (by decide)))
  · have refused : (readKind tag).Refuses (Eq (.unknownTag tag)) (buffer.drop 3) := by
      refine ⟨_, buffer.drop 3, rfl, ?_⟩
      rw [readKind, MessageKind.ofTag?_eq_none.mpr unknown]
      rfl
    rw [Refuses, readHeader_eq present place]
    exact refused.bind

theorem decode_of_refused (refused : readHeader.Refuses (Eq reason) buffer) :
    decode buffer sender = .error (.refused reason) := by
  rw [decode, read_eq]
  exact refused.bind.eval_refused

theorem decode_of_peeked (sender : String) (present : Layout.headerSize ≤ buffer.length)
    (peeked : peekKind buffer = .ok kind) :
    ∃ build : Option SessionId → Payload → Message,
      decode buffer sender = Reader.eval (do
        let sessionId ← readSessionId kind
        let payload ← Payload.read kind
        return build sessionId payload) (buffer.drop Layout.headerSize) := by
  obtain ⟨version, senderInstance, chatInstance, header⟩ := readHeader_of_peeked present peeked
  rw [decode, read_eq, Reader.eval, bind_of_ok header]
  exact ⟨_, rfl⟩

theorem decode_of_short (peeked : peekKind buffer = .ok kind) (asked : kind.inSession)
    (short : buffer.length < Layout.headerSize + Layout.sessionIdSize) :
    decode buffer sender = .error (.refused .tooShort) := by
  by_cases present : Layout.headerSize ≤ buffer.length
  · obtain ⟨build, body⟩ := decode_of_peeked sender present peeked
    have refused : (readSessionId kind).Refuses (Eq .tooShort)
        (buffer.drop Layout.headerSize) := by
      rw [readSessionId, if_pos asked]
      exact (refuses_block_drop present short).bind
    rw [body]
    exact refused.bind.eval_refused
  · exact decode_of_refused (refuses_readHeader_of_short (Nat.lt_of_not_le present))

/-- An offer holds its position and its contribution in the place of a session id, so what is peeked
there is the one and then the other as far as they go. -/
theorem peekSessionId_offer {frame : Frame} {position : UInt32}
    {contribution : Block Layout.sidContributionSize} (absent : frame.sessionId = none)
    (spelled : (Payload.offer position contribution).Spelled frame.payload) :
    ∃ sessionId, peekSessionId frame.bytes = .ok sessionId ∧
      sessionId.bytes = BigEndian.encode 4 position.toNat ++ contribution.bytes.take 28 := by
  let sessionId : SessionId := {
    bytes := BigEndian.encode 4 position.toNat ++ contribution.bytes.take 28
    size_eq := by
      rw [List.length_append, BigEndian.length_encode, List.length_take, contribution.size_eq]
      rfl
  }
  refine ⟨sessionId, peekSessionId_eq_ok.mpr ⟨contribution.bytes.drop 28, ?_⟩, rfl⟩
  rw [frame.drop_bytes, absent, Option.elim_none, List.nil_append, Payload.join_of_offer spelled,
    List.append_assoc, List.take_append_drop]

theorem peekSessionId_of_spells {frame : Frame} {message : Message} {sessionId : SessionId}
    (spells : frame.Spells message) (held : message.sessionId = some sessionId) :
    peekSessionId frame.bytes = .ok sessionId := by
  rw [peekSessionId_eq_ok, frame.drop_bytes, ← spells.sessionId, held]
  exact ⟨_, rfl⟩

/-- Of an accepted frame the kind and the session id of its message are peeked, or the first bytes
of its payload if that is an offer. Where no kind can be peeked behind a header, reading fails alike.
Where the kind asks for a session id, peeking at that fails only when the frame ends before it, and
then the frame is not read either. -/
theorem peeks_agree (frame : Bytes) (sender : String) :
    (∀ message, decode frame sender = .ok message →
      peekKind frame = .ok message.kind ∧
      (message.kind.inSession →
        ∃ sessionId, message.sessionId = some sessionId ∧ peekSessionId frame = .ok sessionId) ∧
      ∀ position contribution, message.payload = .offer position contribution →
        ∃ sessionId, peekSessionId frame = .ok sessionId ∧
          sessionId.bytes = (frame.drop Layout.headerSize).take Layout.sessionIdSize ∧
          sessionId.bytes = BigEndian.encode 4 position.toNat ++ contribution.bytes.take 28) ∧
    (Layout.headerSize ≤ frame.length → ∀ reason, peekKind frame = .error reason →
      decode frame sender = .error (.refused reason)) ∧
    ∀ kind, peekKind frame = .ok kind → kind.inSession →
      ((∃ error, peekSessionId frame = .error error) ↔
        frame.length < Layout.headerSize + Layout.sessionIdSize) ∧
      (frame.length < Layout.headerSize + Layout.sessionIdSize →
        peekSessionId frame = .error (.refused .tooShort) ∧
          decode frame sender = .error (.refused .tooShort)) := by
  refine ⟨fun message decoded => ?accepted, fun present reason unknown => ?unknown,
    fun kind peeked asked => ?inSession⟩
  case accepted =>
    obtain ⟨_, shape, rfl, legal, spells⟩ := decode_eq_ok.mp decoded
    have session := legal.session
    rw [← spells.sessionId, ← spells.tag] at session
    refine ⟨?_, fun asked => ?_, fun position contribution offered => ?_⟩
    · rw [peekKind_eq_ok, shape.bytes_tagOffset, spells.tag]
    · have other := (MessageKind.inSession_iff message.payload.kind_ne_notOtr).mp asked
      obtain ⟨sessionId, held⟩ := Option.isSome_iff_exists.mp (session.mpr other)
      exact ⟨sessionId, held, peekSessionId_of_spells spells held⟩
    · have absent : shape.sessionId = none := by
        rw [← spells.sessionId, ← Option.not_isSome_iff_eq_none, session, Message.kind, offered]
        exact not_not_intro rfl
      obtain ⟨sessionId, peeked, bytes⟩ :=
        peekSessionId_offer absent (offered ▸ spells.payload)
      refine ⟨sessionId, peeked, ?_, bytes⟩
      obtain ⟨rest, place⟩ := peekSessionId_eq_ok.mp peeked
      rw [place, List.take_left' sessionId.size_eq]
  case unknown => exact decode_of_refused (refuses_readHeader_of_peeked present unknown)
  case inSession =>
    refine ⟨peekSessionId_eq_error_iff, fun short => ⟨peekSessionId_of_short short, ?_⟩⟩
    exact decode_of_short peeked asked short

def offerFrame : Bytes :=
  [0, 4, 1, 0, 0, 0x10, 0, 0, 0, 1, 0] ++ [0, 0, 0, 1] ++ List.replicate 32 5

theorem peeks_agree_offer :
    (∃ sessionId, peekSessionId offerFrame = .ok sessionId ∧
      sessionId.bytes = [0, 0, 0, 1] ++ List.replicate 28 5) ∧
    decode (offerFrame.set 2 13) "bob" = .error (.refused (.unknownTag 13)) ∧
    decode ((offerFrame.set 2 9).take 42) "bob" = .error (.refused .tooShort) := by
  obtain ⟨accepted, -, -⟩ := peeks_agree offerFrame "bob"
  obtain ⟨-, unknown, -⟩ := peeks_agree (offerFrame.set 2 13) "bob"
  obtain ⟨-, -, short⟩ := peeks_agree ((offerFrame.set 2 9).take 42) "bob"
  refine ⟨?_, unknown (by decide) _ rfl, ((short .shutdownShutdown rfl rfl).2 (by decide)).2⟩
  obtain ⟨-, -, offered⟩ := accepted {
    version := 4
    senderInstance := 0x1000
    chatInstance := 0x100
    sender := "bob"
    sessionId := none
    payload := .offer 1 ⟨List.replicate 32 5, rfl⟩
  } rfl
  obtain ⟨sessionId, peeked, -, bytes⟩ := offered _ _ rfl
  exact ⟨sessionId, peeked, bytes⟩

end Message

end GroupChat

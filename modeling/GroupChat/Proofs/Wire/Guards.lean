import GroupChat.Proofs.Wire.Peeking

/-!
No read overruns. Every block is taken after a check that it is there: the reads of fields check
their own size, and a header or a payload of fixed shape is checked at once for all that is taken
from it. So bytes that nobody wrote as a frame are refused for a reason of the format, and the
reasons are those of reading: that the lengths do not fit, or that the tag has no payload.
-/
namespace GroupChat

open Reader

variable {ε α β : Type} {buffer : Bytes}

namespace Reader

variable {reasons : ε → Prop} {reader : Reader ε α} {next : α → Reader ε β}
  {present middle left : Nat} {reason : ε}

/-- Where at least `present` bytes are, the read is ok and leaves at least `left`, or it is refused
for one of the reasons. An overrun anywhere in it would be its error, so there is none. -/
def IsGuarded (reasons : ε → Prop) (present left : Nat) (reader : Reader ε α) : Prop :=
  ∀ buffer, present ≤ buffer.length →
    (∃ value rest, reader buffer = .ok value rest ∧ left ≤ rest.length) ∨
      reader.Refuses reasons buffer

theorem guarded_pure {value : α} : IsGuarded reasons left left (pure value : Reader ε α) :=
  fun buffer enough => .inl ⟨value, buffer, rfl, enough⟩

theorem IsGuarded.bind (first : IsGuarded reasons present middle reader)
    (second : ∀ value, IsGuarded reasons middle left (next value)) :
    IsGuarded reasons present left (reader >>= next) := by
  intro buffer enough
  obtain ⟨value, rest, ok, kept⟩ | refuses := first buffer enough
  · obtain ⟨result, final, done, remains⟩ | refuses := second value rest kept
    · exact .inl ⟨result, final, by rw [bind_of_ok ok, done], remains⟩
    · exact .inr (refuses.after ok)
  · exact .inr refuses.bind

theorem IsGuarded.map (guarded : IsGuarded reasons present left reader) (form : α → β) :
    IsGuarded reasons present left (reader >>= fun value => pure (form value)) :=
  guarded.bind fun _ => guarded_pure

theorem IsGuarded.mono {more : ε → Prop} (guarded : IsGuarded reasons present left reader)
    (among : ∀ reason, reasons reason → more reason) : IsGuarded more present left reader := by
  intro buffer enough
  refine (guarded buffer enough).imp_right fun refuses => ?_
  obtain ⟨reason, rest, found, failed⟩ := refuses
  exact ⟨reason, rest, among reason found, failed⟩

theorem IsGuarded.after_more (guarded : IsGuarded reasons 0 left reader) :
    IsGuarded reasons present left reader :=
  fun buffer _ => guarded buffer (Nat.zero_le _)

theorem IsGuarded.left_zero (guarded : IsGuarded reasons present left reader) :
    IsGuarded reasons present 0 reader := by
  intro buffer enough
  obtain ⟨value, rest, ok, -⟩ | refuses := guarded buffer enough
  · exact .inl ⟨value, rest, ok, Nat.zero_le _⟩
  · exact .inr refuses

theorem IsGuarded.among_of_error {error : ReadError ε} {rest : Bytes}
    (guarded : IsGuarded reasons 0 left reader) (failed : reader buffer = .error error rest) :
    ∃ reason, error = .refused reason ∧ reasons reason := by
  obtain ⟨value, rest, ok, -⟩ | ⟨reason, rest, among, refused⟩ := guarded buffer (Nat.zero_le _)
  · rw [ok] at failed
    contradiction
  · rw [refused] at failed
    cases failed
    exact ⟨reason, rfl, among⟩

theorem guarded_refuse (among : reasons reason) :
    IsGuarded reasons present left (refuse reason : Reader ε α) :=
  fun buffer _ => .inr ⟨reason, buffer, among, rfl⟩

theorem guarded_ensure {needed : Nat} (among : reasons reason) :
    IsGuarded reasons 0 needed (ensure needed reason) := by
  intro buffer _
  by_cases short : buffer.length < needed
  · exact .inr (refuses_ensure short among)
  · exact .inl ⟨(), buffer, if_neg short, Nat.le_of_not_lt short⟩

theorem guarded_takeBlock (left : Nat) {size : Nat} :
    IsGuarded reasons (size + left) left (takeBlock size : Reader ε _) := by
  intro buffer enough
  have present : size ≤ buffer.length := by omega
  have remains : left ≤ (buffer.drop size).length := by
    rw [List.length_drop]
    omega
  exact .inl ⟨_, _, dif_pos present, remains⟩

theorem guarded_take (left : Nat) {size : Nat} :
    IsGuarded reasons (size + left) left (take size : Reader ε _) :=
  (guarded_takeBlock left).map Block.bytes

theorem guarded_takeNat (left : Nat) {width : Nat} :
    IsGuarded reasons (width + left) left (takeNat width : Reader ε _) :=
  (guarded_take left).map BigEndian.decode

theorem guarded_ensureEnd {trailing : Nat → ε} (among : ∀ count, reasons (trailing count)) :
    IsGuarded reasons 0 0 (ensureEnd trailing) := by
  intro buffer _
  by_cases done : buffer.isEmpty
  · exact .inl ⟨(), buffer, if_pos done, Nat.zero_le _⟩
  · exact .inr ⟨_, buffer, among buffer.length, if_neg done⟩

theorem IsGuarded.toEnd {trailing : Nat → ε} (guarded : IsGuarded reasons 0 0 reader)
    (among : ∀ count, reasons (trailing count)) :
    IsGuarded reasons 0 0 (reader.toEnd trailing) :=
  guarded.bind fun value => (guarded_ensureEnd among).map fun _ => value

theorem IsGuarded.eval_cases (guarded : IsGuarded reasons 0 left reader) (buffer : Bytes) :
    (∃ value, reader.eval buffer = .ok value) ∨
      ∃ reason, reader.eval buffer = .error (.refused reason) ∧ reasons reason := by
  obtain ⟨value, rest, ok, -⟩ | refuses := guarded buffer (Nat.zero_le _)
  · exact .inl ⟨value, eval_eq_ok.mpr ⟨rest, ok⟩⟩
  · obtain ⟨reason, among, failed⟩ := refuses.eval_eq
    exact .inr ⟨reason, failed, among⟩

end Reader

inductive FrameError.IsMisfit : FrameError → Prop
  | tooShort : IsMisfit .tooShort
  | wrongLength (expected actual : Nat) : IsMisfit (.wrongLength expected actual)
  | trailing (count : Nat) : IsMisfit (.trailing count)
  | keyCount (declared found : Nat) : IsMisfit (.keyCount declared found)

open FrameError

namespace FrameReader

theorem guarded_ensureExact {expected : Nat} :
    IsGuarded IsMisfit 0 expected (ensureExact expected) := by
  intro buffer _
  by_cases size : buffer.length = expected
  · exact .inl ⟨(), buffer, if_pos size, Nat.le_of_eq size.symm⟩
  · exact .inr ⟨_, buffer, .wrongLength expected buffer.length, if_neg size⟩

theorem guarded_uint32 : IsGuarded IsMisfit 0 0 uint32 :=
  (guarded_ensure .tooShort).bind fun _ => (guarded_takeNat 0).map UInt32.ofNat

theorem guarded_length : IsGuarded IsMisfit 0 0 length :=
  (guarded_ensure .tooShort).bind fun _ => guarded_takeNat 0

theorem guarded_block {size : Nat} : IsGuarded IsMisfit 0 0 (block size) :=
  (guarded_ensure .tooShort).bind fun _ => guarded_takeBlock 0

theorem guarded_field : IsGuarded IsMisfit 0 0 field :=
  guarded_length.bind fun _ => (guarded_ensure .tooShort).bind fun _ => guarded_take 0

theorem guarded_lastField : IsGuarded IsMisfit 0 0 lastField :=
  guarded_length.bind fun _ => guarded_ensureExact.bind fun _ => guarded_take 0

theorem guarded_mpi : IsGuarded IsMisfit 0 0 mpi := guarded_field.map Mpi.ofBytes

theorem guarded_lastMpi : IsGuarded IsMisfit 0 0 lastMpi := guarded_lastField.map Mpi.ofBytes

end FrameReader

namespace Payload

open FrameReader

theorem guarded_readKeys {missing found : Nat} :
    IsGuarded IsMisfit 0 0 (readKeys missing found) := by
  induction missing generalizing found with
  | zero => exact guarded_pure
  | succ missing ih =>
    -- what is checked here is the length of the key alone; the key checks the rest of itself
    refine (guarded_ensure (.keyCount _ found)).bind fun _ => ?_
    exact guarded_mpi.after_more.bind fun key => ih.map (key :: ·)

theorem guarded_readKeyList : IsGuarded IsMisfit 0 0 readKeyList :=
  guarded_length.bind fun _ => guarded_readKeys.toEnd .trailing

theorem guarded_read_carried {kind : MessageKind} (carried : kind ≠ .notOtr) :
    IsGuarded IsMisfit 0 0 (read kind) := by
  cases kind with
  | notOtr => contradiction
  | offer =>
    -- the position is taken unchecked, out of the size of the whole payload
    refine guarded_ensureExact.bind fun _ => ?_
    refine (guarded_takeNat Layout.sidContributionSize).bind fun position => ?_
    exact guarded_block.after_more.map (offer (.ofNat position))
  | dakeHandshake =>
    exact guarded_mpi.bind fun ephemeralPublic => guarded_lastMpi.map (dakeHandshake ephemeralPublic)
  | dakeConfirm =>
    refine guarded_ensureExact.bind fun _ => ?_
    refine (guarded_takeNat Layout.macSize).bind fun recipient => ?_
    exact guarded_block.after_more.map (dakeConfirm (.ofNat recipient))
  | dakeKey =>
    refine guarded_uint32.bind fun recipient => guarded_block.bind fun mac => ?_
    exact guarded_lastField.map (dakeKey recipient mac)
  | gkaUpflow =>
    exact guarded_uint32.bind fun recipient => guarded_readKeyList.map (gkaUpflow recipient)
  | gkaDownflow => exact guarded_readKeyList.map gkaDownflow
  | attest =>
    refine guarded_ensureExact.bind fun _ => guarded_block.after_more.bind fun sessionId => ?_
    exact guarded_block.map (attest sessionId)
  | data =>
    exact guarded_block.bind fun counter => guarded_lastField.map (data _)
  | shutdownShutdown =>
    exact guarded_ensureExact.bind fun _ => guarded_block.after_more.map shutdownShutdown
  | shutdownDigest =>
    exact guarded_ensureExact.bind fun _ => guarded_block.after_more.map shutdownDigest
  | shutdownEnd => exact guarded_ensureExact.map fun _ => shutdownEnd
  | shutdownKeyRelease => exact guarded_lastField.map shutdownKeyRelease

theorem guarded_read (kind : MessageKind) :
    IsGuarded (fun reason => reason.IsMisfit ∨ kind = .notOtr ∧ reason = .noPayload .notOtr) 0 0
      (read kind) := by
  by_cases carried : kind = .notOtr
  · subst carried
    exact guarded_refuse (.inr ⟨rfl, rfl⟩)
  · exact (guarded_read_carried carried).mono fun _ => .inl

end Payload

namespace Message

theorem guarded_readSessionId (kind : MessageKind) :
    IsGuarded IsMisfit 0 0 (readSessionId kind) := by
  by_cases asked : kind.inSession
  · rw [readSessionId, if_pos asked]
    exact FrameReader.guarded_block.map some
  · rw [readSessionId, if_neg asked]
    exact guarded_pure

def IsTagged (frame : Bytes) (tag : UInt8) : Prop :=
  Layout.headerSize ≤ frame.length ∧ frame[Layout.tagOffset]? = some tag

variable {frame : Bytes} {sender : String}

theorem decode_of_unknown {tag : UInt8} (tagged : IsTagged frame tag) (unknown : 12 < tag) :
    decode frame sender = .error (.refused (.unknownTag tag)) := by
  obtain ⟨present, place⟩ := tagged
  have peeked := peekKind_eq_error.mpr (.inr ⟨tag, place, unknown, rfl⟩)
  exact decode_of_refused (refuses_readHeader_of_peeked present peeked)

theorem decode_of_plain (tagged : IsTagged frame 0) :
    decode frame sender = .error (.refused (.noPayload .notOtr)) := by
  obtain ⟨present, place⟩ := tagged
  have peeked : peekKind frame = .ok .notOtr := peekKind_eq_ok.mpr place
  obtain ⟨build, body⟩ := decode_of_peeked sender present peeked
  exact body

theorem decode_cases (frame : Bytes) (sender : String) :
    (∃ message, decode frame sender = .ok message) ∨
      ∃ reason, decode frame sender = .error (.refused reason) ∧
        (reason.IsMisfit ∨ (∃ tag, IsTagged frame tag ∧ 12 < tag ∧ reason = .unknownTag tag) ∨
          IsTagged frame 0 ∧ reason = .noPayload .notOtr) := by
  by_cases present : Layout.headerSize ≤ frame.length
  case neg =>
    have short := refuses_readHeader_of_short (Nat.lt_of_not_le present)
    exact .inr ⟨_, decode_of_refused short, .inl .tooShort⟩
  case pos =>
    cases peeked : peekKind frame with
    | error reason =>
      refine .inr ⟨reason, decode_of_refused (refuses_readHeader_of_peeked present peeked), ?_⟩
      obtain ⟨-, rfl⟩ | ⟨tag, place, unknown, rfl⟩ := peekKind_eq_error.mp peeked
      · exact .inl .tooShort
      · exact .inr (.inl ⟨tag, ⟨present, place⟩, unknown, rfl⟩)
    | ok kind =>
      obtain ⟨build, body⟩ := decode_of_peeked sender present peeked
      have guarded := ((guarded_readSessionId kind).mono fun _ => .inl).bind fun sessionId =>
        (Payload.guarded_read kind).map (build sessionId)
      rw [body]
      obtain read | ⟨reason, failed, misfit | ⟨rfl, rfl⟩⟩ :=
        guarded.eval_cases (frame.drop Layout.headerSize)
      · exact .inl read
      · exact .inr ⟨reason, failed, .inl misfit⟩
      · exact .inr ⟨_, failed, .inr (.inr ⟨⟨present, peekKind_eq_ok.mp peeked⟩, rfl⟩)⟩

/-- No read overruns, whatever the bytes are: a payload in front of anything, one that stands alone
and a whole frame are each read or refused for a reason of the format. A frame is refused for its
tag exactly when that is the tag of no kind, or of plain text. -/
theorem decode_guarded (frame : Bytes) (sender : String) (kind : MessageKind) :
    ((∃ payload rest, Payload.read kind frame = .ok payload rest) ∨
      ∃ reason rest, Payload.read kind frame = .error (.refused reason) rest ∧
        (reason.IsMisfit ∨ kind = .notOtr ∧ reason = .noPayload .notOtr)) ∧
    ((∃ payload, Payload.decode kind frame = .ok payload) ∨
      ∃ reason, Payload.decode kind frame = .error (.refused reason) ∧
        (reason.IsMisfit ∨ kind = .notOtr ∧ reason = .noPayload .notOtr)) ∧
    ((∃ message, decode frame sender = .ok message) ∨
      ∃ reason, decode frame sender = .error (.refused reason) ∧
        (reason.IsMisfit ∨ (∃ tag, IsTagged frame tag ∧ 12 < tag ∧ reason = .unknownTag tag) ∨
          IsTagged frame 0 ∧ reason = .noPayload .notOtr)) ∧
    (∀ tag, IsTagged frame tag → 12 < tag →
      decode frame sender = .error (.refused (.unknownTag tag))) ∧
    (IsTagged frame 0 → decode frame sender = .error (.refused (.noPayload .notOtr))) := by
  have payload := Payload.guarded_read kind
  refine ⟨?_, (payload.toEnd fun count => .inl (.trailing count)).eval_cases frame,
    decode_cases frame sender, fun tag => decode_of_unknown, decode_of_plain⟩
  obtain ⟨payload, rest, ok, -⟩ | ⟨reason, rest, among, failed⟩ := payload frame (Nat.zero_le _)
  · exact .inl ⟨payload, rest, ok⟩
  · exact .inr ⟨reason, rest, failed, among⟩

/-- A read that makes no check does overrun. -/
example : (Reader.takeNat 4 : FrameReader Nat) [0, 0, 1] = .error .overrun [0, 0, 1] := rfl

end Message

end GroupChat

import GroupChat.Proofs.Wire.FrameShape
import Mathlib.Algebra.GroupWithZero.Nat

/-!
What a message leaves in the buffer that it is written to. What the buffer holds stays in front,
and what is written comes after it and does not depend on it. The session id is asked for before
anything is written, so a message that lacks it leaves the buffer as it was. A length that does not
fit in its four bytes is only found in its place: what stands before it in the frame has been
written by then, and stays.
-/
namespace GroupChat

open GroupChat.Part

variable {buffer final : Bytes} {error : FrameError}

namespace Payload

def sizedSize (content : Bytes) : Nat := Layout.lengthSize + content.length

def size : Payload → Nat
  | offer .. => 4 + Layout.sidContributionSize
  | dakeHandshake ephemeralPublic longTermPublic =>
    sizedSize ephemeralPublic.bytes + sizedSize longTermPublic.bytes
  | dakeConfirm .. => 4 + Layout.macSize
  | dakeKey _ _ key => 4 + Layout.macSize + sizedSize key
  | gkaUpflow _ interKeys =>
    4 + Layout.lengthSize + (interKeys.map fun key => sizedSize key.bytes).sum
  | gkaDownflow interKeys => Layout.lengthSize + (interKeys.map fun key => sizedSize key.bytes).sum
  | attest .. => Layout.sessionIdSize + Layout.tableHashSize
  | data _ ciphertext => 8 + sizedSize ciphertext
  | shutdownShutdown .. => Layout.participantsHashSize
  | shutdownDigest .. => Layout.participantsHashSize
  | shutdownEnd => 0
  | shutdownKeyRelease key => sizedSize key

theorem length_sized (content : Bytes) : (sized content).length = sizedSize content := by
  rw [sized, List.length_append, BigEndian.length_encode, sizedSize]

theorem length_join_numbers (keys : List Mpi) :
    (join (keys.map fun key => number key.bytes)).length =
      (keys.map fun key => sizedSize key.bytes).sum := by
  induction keys with
  | nil => rfl
  | cons key keys ih =>
    rw [List.map_cons, join_cons, List.length_append, ih, List.map_cons, List.sum_cons, Part.bytes,
      length_sized]

theorem length_join_parts (payload : Payload) : (join payload.parts).length = payload.size := by
  cases payload <;>
    simp [parts, size, Part.bytes, length_sized, Block.size_eq, length_join_numbers, Nat.add_assoc]

end Payload

namespace Frame

def opening (frame : Frame) : Bytes :=
  frame.version.bytes ++ frame.tag :: frame.senderInstance.bytes ++ frame.chatInstance.bytes ++
    frame.sessionId.elim [] Block.bytes

theorem bytes_eq_opening (frame : Frame) : frame.bytes = frame.opening ++ join frame.payload := rfl

theorem length_opening (frame : Frame) :
    frame.opening.length =
      Layout.headerSize + if frame.sessionId.isSome then Layout.sessionIdSize else 0 := by
  cases session : frame.sessionId with
  | none => simp [opening, session, Block.size_eq]
  | some sessionId =>
    simp only [opening, session, List.length_append, List.length_cons, Block.size_eq,
      Option.elim_some, Option.isSome_some, if_true]

theorem append_opening_ne (frame : Frame) (front back : Bytes) :
    front ++ (frame.opening ++ back) ≠ front := by
  intro same
  have nothing := (List.append_eq_nil_iff.mp (List.append_right_eq_self.mp same)).1
  have some : 0 < frame.opening.length := by
    rw [length_opening]
    exact Nat.add_pos_left (by decide) _
  simp [nothing] at some

end Frame

namespace Message

variable {message : Message}

theorem opening_frame (message : Message) :
    message.frame.opening =
      BigEndian.encode 2 message.version.toNat ++ BigEndian.encode 1 message.kind.tag.toNat ++
        BigEndian.encode 4 message.senderInstance.toNat ++
        BigEndian.encode 4 message.chatInstance.toNat ++
        (if message.kind.inSession then message.sessionId else none).elim [] Block.bytes := by
  have whole := message.bytes_frame
  rw [Frame.bytes_eq_opening] at whole
  exact List.append_cancel_right whole

theorem write_eq (message : Message) (buffer : Bytes) :
    message.write buffer =
      match requiredSessionId message.kind message.sessionId with
      | .ok _ => putAll message.payload.parts (buffer ++ message.frame.opening)
      | .error error => .error error buffer := by
  cases required : requiredSessionId message.kind message.sessionId with
  | error error =>
    exact bind_of_error (Writer.ofExcept_eq_error.mpr ⟨required, rfl⟩)
  | ok sessionId =>
    obtain ⟨-, rfl⟩ := requiredSessionId_eq_ok.mp required
    have put (bytes prior : Bytes) : Writer.put bytes prior = .ok () (prior ++ bytes) := rfl
    simp only [write, Writer.putNat]
    rw [bind_of_ok (Writer.ofExcept_eq_ok.mpr ⟨required, rfl⟩), bind_of_ok (put _ _),
      bind_of_ok (put _ _), bind_of_ok (put _ _), bind_of_ok (put _ _), bind_of_ok (put _ _),
      Payload.write_eq, opening_frame]
    simp only [List.append_assoc]

theorem not_lacking (session : message.kind.inSession → message.sessionId.isSome) :
    ¬ (message.kind.inSession ∧ message.sessionId = none) := by
  rintro ⟨asked, lacking⟩
  simpa [lacking] using session asked

theorem write_eq_error :
    message.write buffer = .error error final ↔
      (message.kind.inSession ∧ message.sessionId = none ∧ error = .noSessionId message.kind ∧
        final = buffer) ∨
      ((message.kind.inSession → message.sessionId.isSome) ∧ error = .fieldTooLong ∧
        ∃ front part back, message.payload.parts = front ++ part :: back ∧
          (∀ part ∈ front, part.Fits) ∧ ¬ part.Fits ∧
          final = buffer ++ (message.frame.opening ++ join front)) := by
  rw [write_eq]
  cases required : requiredSessionId message.kind message.sessionId with
  | error cause =>
    obtain ⟨asked, lacking, rfl⟩ := requiredSessionId_eq_error.mp required
    simp [asked, lacking, eq_comm]
  | ok sessionId =>
    obtain ⟨session, -⟩ := requiredSessionId_eq_ok.mp required
    simp only [putAll_eq_error, List.append_assoc]
    refine ⟨fun failed => .inr ⟨session, failed⟩, fun failed => ?_⟩
    obtain ⟨asked, lacking, -⟩ | ⟨-, failed⟩ := failed
    · exact absurd ⟨asked, lacking⟩ (not_lacking session)
    · exact failed

theorem exists_write_eq_ok :
    (∃ final, message.write buffer = .ok () final) ↔
      (message.kind.inSession → message.sessionId.isSome) ∧ message.payload.Fits := by
  simp only [write_eq_ok, Payload.fits_iff, exists_and_left, exists_eq, and_true]

theorem exists_write_noSessionId :
    (∃ final, message.write buffer = .error (.noSessionId message.kind) final) ↔
      message.kind.inSession ∧ message.sessionId = none := by
  refine ⟨fun failed => ?_, fun lacking => ?_⟩
  · obtain ⟨final, failed⟩ := failed
    obtain ⟨asked, lacking, -⟩ | ⟨-, other, -⟩ := write_eq_error.mp failed
    · exact ⟨asked, lacking⟩
    · contradiction
  · exact ⟨buffer, write_eq_error.mpr (.inl ⟨lacking.1, lacking.2, rfl, rfl⟩)⟩

theorem exists_write_fieldTooLong :
    (∃ final, message.write buffer = .error .fieldTooLong final) ↔
      (message.kind.inSession → message.sessionId.isSome) ∧ ¬ message.payload.Fits := by
  refine ⟨fun failed => ?_, fun unfit => ?_⟩
  · obtain ⟨final, failed⟩ := failed
    obtain ⟨-, -, other, -⟩ | ⟨session, -, front, part, back, split, -, long, -⟩ :=
      write_eq_error.mp failed
    · contradiction
    · refine ⟨session, fun fits => long (Payload.fits_iff _ |>.mp fits part ?_)⟩
      simp [split]
  · obtain ⟨session, unfit⟩ := unfit
    cases outcome : message.write buffer with
    | ok _ final => exact absurd (exists_write_eq_ok.mp ⟨final, outcome⟩).2 unfit
    | error error final =>
      obtain ⟨asked, lacking, -⟩ | ⟨-, rfl, -⟩ := write_eq_error.mp outcome
      · exact absurd ⟨asked, lacking⟩ (not_lacking session)
      · exact ⟨final, rfl⟩

theorem prefix_write (message : Message) (buffer : Bytes) :
    buffer <+: finalState (message.write buffer) := by
  cases outcome : message.write buffer with
  | ok _ final =>
    obtain ⟨-, -, rfl⟩ := write_eq_ok.mp outcome
    exact List.prefix_append _ _
  | error error final =>
    obtain ⟨-, -, -, rfl⟩ | ⟨-, -, _, _, _, -, -, -, rfl⟩ := write_eq_error.mp outcome
    · exact List.prefix_rfl
    · exact List.prefix_append _ _

theorem write_eq_ok_iff_encode :
    message.write buffer = .ok () final ↔
      ∃ bytes, message.encode = .ok bytes ∧ final = buffer ++ bytes := by
  rw [write_eq_ok]
  simp only [encode_eq_ok]
  constructor
  · intro written
    obtain ⟨session, fits, rfl⟩ := written
    exact ⟨_, ⟨session, fits, rfl⟩, rfl⟩
  · intro encoded
    obtain ⟨_, ⟨session, fits, rfl⟩, rfl⟩ := encoded
    exact ⟨session, fits, rfl⟩

theorem length_of_encode {bytes : Bytes} (encoded : message.encode = .ok bytes) :
    bytes.length = Layout.headerSize +
      (if message.kind.inSession then Layout.sessionIdSize else 0) + message.payload.size := by
  obtain ⟨session, -, rfl⟩ := encode_eq_ok.mp encoded
  have held : message.frame.sessionId.isSome = message.kind.inSession := by
    by_cases asked : message.kind.inSession
    · simp [frame, asked, session asked]
    · simp [frame, asked]
  rw [Frame.bytes_eq_opening, List.length_append, Frame.length_opening, held, frame,
    Payload.length_join_parts]

/-- A message is written exactly when it has the session id that its kind asks for and every length
in it fits. A missing session id is told before a length that does not fit. Whatever comes of it,
the buffer keeps what it held in front; a message that is written follows there as it would stand
alone, with as many bytes as its opening and its fields take. -/
theorem write_appends_exactly (message : Message) :
    (∀ buffer, (∃ final, message.write buffer = .ok () final) ↔
      (message.kind.inSession → message.sessionId.isSome) ∧ message.payload.Fits) ∧
    (∀ buffer, (∃ final, message.write buffer = .error (.noSessionId message.kind) final) ↔
      message.kind.inSession ∧ message.sessionId = none) ∧
    (∀ buffer, (∃ final, message.write buffer = .error .fieldTooLong final) ↔
      (message.kind.inSession → message.sessionId.isSome) ∧ ¬ message.payload.Fits) ∧
    (∀ buffer, buffer <+: finalState (message.write buffer)) ∧
    (∀ buffer final, message.write buffer = .ok () final ↔
      ∃ bytes, message.encode = .ok bytes ∧ final = buffer ++ bytes) ∧
    ∀ bytes, message.encode = .ok bytes →
      bytes.length = Layout.headerSize +
        (if message.kind.inSession then Layout.sessionIdSize else 0) + message.payload.size :=
  ⟨fun _ => exists_write_eq_ok, fun _ => exists_write_noSessionId,
    fun _ => exists_write_fieldTooLong, message.prefix_write, fun _ _ => write_eq_ok_iff_encode,
    fun _ => length_of_encode⟩

/-- A message that lacks its session id leaves the buffer as it was. One with a length that does not
fit leaves behind what stands before that length: the opening and the fields that come first. -/
theorem failed_write_leaves (message : Message) (buffer : Bytes) (error : FrameError)
    (final : Bytes) :
    (message.write buffer = .error error final ↔
      (message.kind.inSession ∧ message.sessionId = none ∧ error = .noSessionId message.kind ∧
        final = buffer) ∨
      ((message.kind.inSession → message.sessionId.isSome) ∧ error = .fieldTooLong ∧
        ∃ front part back, message.payload.parts = front ++ part :: back ∧
          (∀ part ∈ front, part.Fits) ∧ ¬ part.Fits ∧
          final = buffer ++ (message.frame.opening ++ join front))) ∧
    (message.write buffer = .error error final →
      (final = buffer ↔ message.kind.inSession ∧ message.sessionId = none)) := by
  refine ⟨write_eq_error, fun failed => ?_⟩
  obtain ⟨asked, lacking, -, rfl⟩ | ⟨session, -, front, _, _, -, -, -, rfl⟩ :=
    write_eq_error.mp failed
  · exact iff_of_true rfl ⟨asked, lacking⟩
  · exact iff_of_false (message.frame.append_opening_ne _ _) (not_lacking session)

def blankRelease (size : Nat) : Message where
  version := 4
  senderInstance := 0x1000
  chatInstance := 0x100
  sender := "alice"
  sessionId := some (.zero Layout.sessionIdSize)
  payload := .shutdownKeyRelease (List.replicate size 0)

theorem exists_failed_write_kept :
    ∃ error final, (blankRelease UInt32.size).write [1, 2] = .error error final ∧
      final ≠ [1, 2] := by
  let release := blankRelease UInt32.size
  have long : ¬ (Part.field (List.replicate UInt32.size 0)).Fits := by
    rw [Part.Fits, List.length_replicate]
    exact Nat.lt_irrefl _
  have failed : release.write [1, 2] =
      .error .fieldTooLong ([1, 2] ++ (release.frame.opening ++ join [])) :=
    write_eq_error.mpr (.inr ⟨fun _ => rfl, rfl, [], _, [], rfl, by simp, long, rfl⟩)
  exact ⟨_, _, failed, release.frame.append_opening_ne _ _⟩

end Message

end GroupChat

import GroupChat.Proofs.Wire.Reading

/-!
Where each read fails, and what it has taken by then. A check that fails takes nothing, so a read
fails with the buffer as it was. Only a field of variable size may find that it is not there after
it has taken its length.
-/
namespace GroupChat

open GroupChat.Part

variable {ε : Type} {buffer rest : Bytes}

theorem takeBlock_eq_error {size : Nat} {error : ReadError ε} :
    (Reader.takeBlock size : Reader ε _) buffer = .error error rest ↔
      buffer.length < size ∧ error = .overrun ∧ rest = buffer := by
  by_cases present : size ≤ buffer.length
  · simp [Reader.takeBlock, present, Nat.not_lt.mpr present]
  · simp [Reader.takeBlock, present, Nat.lt_of_not_le present, eq_comm]

theorem take_eq_error {size : Nat} {error : ReadError ε} :
    (Reader.take size : Reader ε _) buffer = .error error rest ↔
      buffer.length < size ∧ error = .overrun ∧ rest = buffer :=
  map_eq_error.trans takeBlock_eq_error

theorem takeNat_eq_error {width : Nat} {error : ReadError ε} :
    (Reader.takeNat width : Reader ε _) buffer = .error error rest ↔
      buffer.length < width ∧ error = .overrun ∧ rest = buffer :=
  map_eq_error.trans take_eq_error

theorem ensure_eq_error {needed : Nat} {reason : ε} {error : ReadError ε} :
    Reader.ensure needed reason buffer = .error error rest ↔
      buffer.length < needed ∧ error = .refused reason ∧ rest = buffer := by
  by_cases short : buffer.length < needed <;> simp [Reader.ensure, short, eq_comm]

theorem ensureEnd_eq_error {trailing : Nat → ε} {error : ReadError ε} :
    Reader.ensureEnd trailing buffer = .error error rest ↔
      buffer ≠ [] ∧ error = .refused (trailing buffer.length) ∧ rest = buffer := by
  cases buffer with
  | nil => simp [Reader.ensureEnd]
  | cons => simp [Reader.ensureEnd, eq_comm]

theorem toEnd_eq_error {α : Type} {reader : Reader ε α} {trailing : Nat → ε}
    {error : ReadError ε} :
    Reader.toEnd reader trailing buffer = .error error rest ↔
      reader buffer = .error error rest ∨
        ∃ value, reader buffer = .ok value rest ∧ rest ≠ [] ∧
          error = .refused (trailing rest.length) := by
  simp only [Reader.toEnd, bind_eq_error, ensureEnd_eq_error, pure_ne_error, and_false,
    exists_false, or_false]
  refine or_congr_right ⟨fun failed => ?_, fun excess => ?_⟩
  · obtain ⟨value, middle, ok, present, rfl, rfl⟩ := failed
    exact ⟨value, ok, present, rfl⟩
  · obtain ⟨value, ok, present, rfl⟩ := excess
    exact ⟨value, rest, ok, present, rfl, rfl⟩

namespace FrameReader

variable {error : ReadError FrameError}

theorem ensureExact_eq_error {expected : Nat} :
    ensureExact expected buffer = .error error rest ↔
      buffer.length ≠ expected ∧ error = .refused (.wrongLength expected buffer.length) ∧
        rest = buffer := by
  by_cases size : buffer.length = expected <;> simp [ensureExact, size, eq_comm]

/-- A read of a fixed size after a check for as many bytes fails in the check. -/
theorem ensured_eq_error {α : Type} {needed : Nat} {reader : FrameReader α}
    (guarded : ∀ {buffer rest error}, reader buffer = .error error rest → buffer.length < needed) :
    (ensureRemaining needed >>= fun _ => reader) buffer = .error error rest ↔
      buffer.length < needed ∧ error = .refused .tooShort ∧ rest = buffer := by
  simp only [ensureRemaining, bind_eq_error, ensure_eq_error, ensure_eq_ok]
  refine or_iff_left fun overrun => ?_
  obtain ⟨_, _, ⟨present, rfl⟩, failed⟩ := overrun
  exact absurd (guarded failed) (Nat.not_lt.mpr present)

theorem exists_ok_of_eq_error {α : Type} {needed : Nat} {reader : FrameReader α}
    (fails : ∀ {error rest}, reader buffer = .error error rest ↔
      buffer.length < needed ∧ error = .refused .tooShort ∧ rest = buffer) :
    (∃ value rest, reader buffer = .ok value rest) ↔ needed ≤ buffer.length := by
  rw [exists_eq_ok_iff]
  constructor
  · intro ok
    apply Nat.le_of_not_lt
    exact fun short => ok _ _ (fails.mpr ⟨short, rfl, rfl⟩)
  · intro present error rest failed
    have short := (fails.mp failed).1
    omega

theorem length_eq_error :
    length buffer = .error error rest ↔
      buffer.length < Layout.lengthSize ∧ error = .refused .tooShort ∧ rest = buffer :=
  ensured_eq_error fun failed => (takeNat_eq_error.mp failed).1

theorem block_eq_error {size : Nat} :
    block size buffer = .error error rest ↔
      buffer.length < size ∧ error = .refused .tooShort ∧ rest = buffer :=
  ensured_eq_error fun failed => (takeBlock_eq_error.mp failed).1

theorem uint32_eq_error :
    uint32 buffer = .error error rest ↔
      buffer.length < 4 ∧ error = .refused .tooShort ∧ rest = buffer := by
  refine ensured_eq_error fun failed => ?_
  simp only [bind_eq_error, takeNat_eq_error, pure_ne_error, and_false, exists_false,
    or_false] at failed
  exact failed.1

theorem field_eq_error :
    field buffer = .error error rest ↔
      error = .refused .tooShort ∧
        (buffer.length < Layout.lengthSize ∧ rest = buffer ∨
          ∃ size, (count size).Fits ∧ buffer = (count size).bytes ++ rest ∧
            rest.length < size) := by
  have content (size : Nat) {buffer rest : Bytes} :
      (ensureRemaining size >>= fun _ => Reader.take size) buffer = .error error rest ↔
        buffer.length < size ∧ error = .refused .tooShort ∧ rest = buffer :=
    ensured_eq_error fun failed => (take_eq_error.mp failed).1
  simp only [field, bind_eq_error, length_eq_error, length_eq_ok, content]
  refine ⟨fun failed => ?_, fun lacking => ?_⟩
  · obtain ⟨short, rfl, rfl⟩ | ⟨size, _, ⟨fits, rfl⟩, short, rfl, rfl⟩ := failed
    · exact ⟨rfl, .inl ⟨short, rfl⟩⟩
    · exact ⟨rfl, .inr ⟨size, fits, rfl, short⟩⟩
  · obtain ⟨rfl, ⟨short, rfl⟩ | ⟨size, fits, rfl, short⟩⟩ := lacking
    · exact .inl ⟨short, rfl, rfl⟩
    · exact .inr ⟨size, _, ⟨fits, rfl⟩, short, rfl, rfl⟩

theorem lastField_eq_error :
    lastField buffer = .error error rest ↔
      (buffer.length < Layout.lengthSize ∧ error = .refused .tooShort ∧ rest = buffer) ∨
        ∃ size, (count size).Fits ∧ buffer = (count size).bytes ++ rest ∧ rest.length ≠ size ∧
          error = .refused (.wrongLength size rest.length) := by
  simp only [lastField, bind_eq_error, length_eq_error, length_eq_ok, ensureExact_eq_error,
    ensureExact_eq_ok, take_eq_error]
  refine or_congr_right ⟨fun failed => ?_, fun unequal => ?_⟩
  · obtain ⟨size, _, ⟨fits, rfl⟩, ⟨unequal, rfl, rfl⟩ | ⟨_, _, ⟨exact, rfl⟩, short, -⟩⟩ := failed
    · exact ⟨size, fits, rfl, unequal, rfl⟩
    · omega
  · obtain ⟨size, fits, rfl, unequal, rfl⟩ := unequal
    exact ⟨size, rest, ⟨fits, rfl⟩, .inl ⟨unequal, rfl, rfl⟩⟩

theorem mpi_eq_error : mpi buffer = .error error rest ↔ field buffer = .error error rest := by
  simp only [mpi, bind_eq_error, pure_ne_error, and_false, exists_false, or_false]

end FrameReader

end GroupChat

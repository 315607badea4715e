import GroupChat.Payload.Reader
import GroupChat.Proofs.StateSteps
import GroupChat.Proofs.Wire.Parts

/-!
What each read takes off the front of a buffer when it is ok: the bytes of one part, or of several
ones in turn. The read of a last field empties the buffer.
-/
namespace GroupChat

open GroupChat.Part

variable {ε : Type} {buffer rest : Bytes}

theorem takeBlock_eq_ok {size : Nat} {block : Block size} :
    (Reader.takeBlock size : Reader ε _) buffer = .ok block rest ↔
      buffer = block.bytes ++ rest := by
  constructor
  · intro taken
    by_cases present : size ≤ buffer.length
    · simp only [Reader.takeBlock, dif_pos present, EStateM.Result.ok.injEq] at taken
      obtain ⟨rfl, rfl⟩ := taken
      exact (List.take_append_drop size buffer).symm
    · simp [Reader.takeBlock, present] at taken
  · intro equal
    subst equal
    exact Reader.takeBlock_append block rest

theorem take_eq_ok {size : Nat} {bytes : Bytes} :
    (Reader.take size : Reader ε _) buffer = .ok bytes rest ↔
      bytes.length = size ∧ buffer = bytes ++ rest := by
  simp only [Reader.take, map_eq_ok, takeBlock_eq_ok]
  constructor
  · intro read
    obtain ⟨block, rfl, rfl⟩ := read
    exact ⟨block.size_eq, rfl⟩
  · intro spelled
    obtain ⟨size_eq, rfl⟩ := spelled
    exact ⟨⟨bytes, size_eq⟩, rfl, rfl⟩

theorem takeNat_eq_ok {width value : Nat} :
    (Reader.takeNat width : Reader ε _) buffer = .ok value rest ↔
      ∃ digits : Block width, digits.value = value ∧ buffer = digits.bytes ++ rest := by
  simp only [Reader.takeNat, map_eq_ok, take_eq_ok]
  constructor
  · intro read
    obtain ⟨bytes, ⟨size_eq, rfl⟩, value_eq⟩ := read
    exact ⟨⟨bytes, size_eq⟩, value_eq, rfl⟩
  · intro spelled
    obtain ⟨digits, value_eq, rfl⟩ := spelled
    exact ⟨digits.bytes, ⟨digits.size_eq, rfl⟩, value_eq⟩

theorem takeNat_byte (byte : UInt8) :
    (Reader.takeNat 1 : Reader ε _) ([byte] ++ rest) = .ok byte.toNat rest := by
  have value : (⟨[byte], rfl⟩ : Block 1).value = byte.toNat := by
    simp [Block.value, BigEndian.decode, BigEndian.capacity]
  exact takeNat_eq_ok.mpr ⟨_, value, rfl⟩

theorem ensure_eq_ok {needed : Nat} {reason : ε} {value : Unit} :
    Reader.ensure needed reason buffer = .ok value rest ↔
      needed ≤ buffer.length ∧ buffer = rest := by
  unfold Reader.ensure
  split <;> simp <;> omega

theorem ensure_of_le {needed : Nat} {reason : ε} (present : needed ≤ buffer.length) :
    Reader.ensure needed reason buffer = .ok () buffer := if_neg (Nat.not_lt.mpr present)

theorem ensureEnd_eq_ok {trailing : Nat → ε} {value : Unit} :
    Reader.ensureEnd trailing buffer = .ok value rest ↔ buffer = [] ∧ rest = [] := by
  cases buffer with
  | nil => simp [Reader.ensureEnd, eq_comm]
  | cons => simp [Reader.ensureEnd]

theorem toEnd_eq_ok {α : Type} {reader : Reader ε α} {trailing : Nat → ε} {value : α} :
    Reader.toEnd reader trailing buffer = .ok value rest ↔
      rest = [] ∧ reader buffer = .ok value [] := by
  simp only [Reader.toEnd, bind_eq_ok, ensureEnd_eq_ok, pure_eq_ok]
  constructor
  · intro read
    obtain ⟨_, _, read, _, _, ⟨rfl, rfl⟩, rfl, rfl⟩ := read
    exact ⟨rfl, read⟩
  · intro spelled
    obtain ⟨rfl, read⟩ := spelled
    exact ⟨value, [], read, (), [], ⟨rfl, rfl⟩, rfl, rfl⟩

theorem eval_eq_ok {α : Type} {reader : Reader ε α} {value : α} :
    Reader.eval reader buffer = .ok value ↔ ∃ rest, reader buffer = .ok value rest := by
  unfold Reader.eval
  split <;> simp_all

namespace FrameReader

theorem ensureExact_eq_ok {expected : Nat} {value : Unit} :
    ensureExact expected buffer = .ok value rest ↔ buffer.length = expected ∧ buffer = rest := by
  unfold ensureExact
  split <;> simp_all

theorem ensureExact_of_length {expected : Nat} (size : buffer.length = expected) :
    ensureExact expected buffer = .ok () buffer := if_pos size

theorem uint32_eq_ok {value : UInt32} :
    uint32 buffer = .ok value rest ↔
      ∃ digits : Block 4, UInt32.ofNat digits.value = value ∧
        buffer = digits.bytes ++ rest := by
  simp only [uint32, ensureRemaining, bind_eq_ok, ensure_eq_ok, takeNat_eq_ok, pure_eq_ok]
  constructor
  · intro read
    obtain ⟨_, _, ⟨_, rfl⟩, _, _, ⟨digits, rfl, rfl⟩, value_eq, rfl⟩ := read
    exact ⟨digits, value_eq, rfl⟩
  · intro spelled
    obtain ⟨digits, value_eq, rfl⟩ := spelled
    refine ⟨(), _, ⟨?_, rfl⟩, _, _, ⟨digits, rfl, rfl⟩, value_eq, rfl⟩
    simp [digits.size_eq]

theorem block_eq_ok {size : Nat} {value : Block size} :
    block size buffer = .ok value rest ↔ buffer = value.bytes ++ rest := by
  simp only [block, ensureRemaining, bind_eq_ok, ensure_eq_ok, takeBlock_eq_ok]
  constructor
  · intro read
    obtain ⟨_, _, ⟨_, rfl⟩, rfl⟩ := read
    rfl
  · intro equal
    subst equal
    refine ⟨(), _, ⟨?_, rfl⟩, rfl⟩
    simp [value.size_eq]

theorem length_eq_ok {size : Nat} :
    length buffer = .ok size rest ↔
      (count size).Fits ∧ buffer = (count size).bytes ++ rest := by
  simp only [length, ensureRemaining, bind_eq_ok, ensure_eq_ok, takeNat_eq_ok]
  constructor
  · intro read
    obtain ⟨_, _, ⟨_, rfl⟩, digits, rfl, rfl⟩ := read
    have same := congrArg Block.bytes digits.ofValue_value
    exact ⟨digits.value_lt, by rw [Part.bytes, ← same]; rfl⟩
  · intro spelled
    obtain ⟨fits, rfl⟩ := spelled
    refine ⟨(), _, ⟨by simp [Part.bytes], rfl⟩, Block.ofValue _ size, ?_, rfl⟩
    rw [Block.value_ofValue]
    exact Nat.mod_eq_of_lt fits

theorem field_eq_ok {content : Bytes} :
    field buffer = .ok content rest ↔
      (Part.field content).Fits ∧ buffer = (Part.field content).bytes ++ rest := by
  simp only [field, ensureRemaining, bind_eq_ok, length_eq_ok, ensure_eq_ok, take_eq_ok]
  constructor
  · intro read
    obtain ⟨_, _, ⟨fits, rfl⟩, _, _, ⟨_, rfl⟩, rfl, rfl⟩ := read
    exact ⟨fits, by simp [Part.bytes, sized]⟩
  · intro spelled
    obtain ⟨fits, rfl⟩ := spelled
    refine ⟨content.length, content ++ rest, ⟨fits, by simp [Part.bytes, sized]⟩, (), _,
      ⟨by simp, rfl⟩, rfl, rfl⟩

theorem lastField_eq_ok {content : Bytes} :
    lastField buffer = .ok content rest ↔
      rest = [] ∧ (Part.field content).Fits ∧ buffer = (Part.field content).bytes := by
  simp only [lastField, bind_eq_ok, length_eq_ok, ensureExact_eq_ok, take_eq_ok]
  constructor
  · intro read
    obtain ⟨_, _, ⟨fits, rfl⟩, _, _, ⟨exact, rfl⟩, rfl, rfl⟩ := read
    have empty : rest = [] := by simpa using exact
    subst empty
    exact ⟨rfl, fits, by simp [Part.bytes, sized]⟩
  · intro spelled
    obtain ⟨rfl, fits, rfl⟩ := spelled
    exact ⟨content.length, content, ⟨fits, rfl⟩, (), _, ⟨rfl, rfl⟩, rfl, by simp⟩

theorem mpi_eq_ok {value : Mpi} :
    mpi buffer = .ok value rest ↔
      ∃ digits, Mpi.ofBytes digits = value ∧ (number digits).Fits ∧
        buffer = (number digits).bytes ++ rest := by
  simp only [mpi, bind_eq_ok, field_eq_ok, pure_eq_ok]
  constructor
  · intro read
    obtain ⟨digits, _, ⟨fits, rfl⟩, value_eq, rfl⟩ := read
    exact ⟨digits, value_eq, fits, rfl⟩
  · intro spelled
    obtain ⟨digits, value_eq, fits, rfl⟩ := spelled
    exact ⟨digits, rest, ⟨fits, rfl⟩, value_eq, rfl⟩

theorem lastMpi_eq_ok {value : Mpi} :
    lastMpi buffer = .ok value rest ↔
      rest = [] ∧ ∃ digits, Mpi.ofBytes digits = value ∧ (number digits).Fits ∧
        buffer = (number digits).bytes := by
  simp only [lastMpi, bind_eq_ok, lastField_eq_ok, pure_eq_ok]
  constructor
  · intro read
    obtain ⟨digits, _, ⟨rfl, fits, rfl⟩, value_eq, rfl⟩ := read
    exact ⟨rfl, digits, value_eq, fits, rfl⟩
  · intro spelled
    obtain ⟨rfl, digits, value_eq, fits, rfl⟩ := spelled
    exact ⟨digits, [], ⟨rfl, fits, rfl⟩, value_eq, rfl⟩

end FrameReader

end GroupChat

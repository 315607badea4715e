import GroupChat.Bytes.BigEndian
import GroupChat.Bytes.Hex

/-!
Multi-precision integers: natural numbers of any size as byte strings without a leading zero byte.
Zero is the empty string, so two numbers are equal when their bytes are.
-/
namespace GroupChat

structure Mpi where
  bytes : Bytes
  noLeadingZero : bytes.head? ≠ some 0
deriving DecidableEq

namespace Mpi

def ofBytes (bytes : Bytes) : Mpi where
  bytes := bytes.dropWhile (· == 0)
  noLeadingZero := by
    intro zero
    have kept := List.head?_dropWhile_not (· == 0) bytes
    rw [zero] at kept
    simp at kept

def ofUInt64 (value : UInt64) : Mpi := ofBytes (BigEndian.encode 8 value.toNat)

def isZero (number : Mpi) : Bool := number.bytes.isEmpty

def value (number : Mpi) : Nat := BigEndian.decode number.bytes

/-- The longer number is the greater one; numbers of one length compare byte by byte. -/
instance : Ord Mpi where
  compare a b := (compare a.bytes.length b.bytes.length).then (compare a.bytes b.bytes)

def text (number : Mpi) : String := "Mpi(0x" ++ Hex.encode number.bytes ++ ")"

theorem ofBytes_of_head {bytes : Bytes} (noLeadingZero : bytes.head? ≠ some 0) :
    ofBytes bytes = ⟨bytes, noLeadingZero⟩ := by
  cases bytes with
  | nil => rfl
  | cons byte rest =>
    have : byte ≠ 0 := by simpa using noLeadingZero
    simp [ofBytes, this]

theorem ofBytes_zero_cons (bytes : Bytes) : ofBytes (0 :: bytes) = ofBytes bytes := by
  simp [ofBytes]

@[simp] theorem ofBytes_bytes (number : Mpi) : ofBytes number.bytes = number :=
  ofBytes_of_head number.noLeadingZero

@[simp] theorem value_ofBytes (bytes : Bytes) : (ofBytes bytes).value = BigEndian.decode bytes := by
  induction bytes with
  | nil => rfl
  | cons byte rest ih =>
    by_cases zero : byte = 0
    · subst zero
      simp [ofBytes_zero_cons, ih, BigEndian.decode]
    · rw [ofBytes_of_head (by simpa using zero)]
      rfl

end Mpi

end GroupChat

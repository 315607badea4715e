import GroupChat.Bytes

/-!
Numbers as byte strings, the first byte weighing most. `encode` writes the last `width` digits in
base 256 and `decode` reads any number of them; the two undo each other.
-/
namespace GroupChat.BigEndian

/-- How many numbers fit into `width` bytes. -/
def capacity : (width : Nat) → Nat
  | 0 => 1
  | width + 1 => capacity width * 256

theorem capacity_pos (width : Nat) : 0 < capacity width := by
  induction width with
  | zero => exact Nat.one_pos
  | succ width ih => exact Nat.mul_pos ih (by decide)

def encode : (width : Nat) → Nat → Bytes
  | 0, _ => []
  | width + 1, value => UInt8.ofNat (value / capacity width) :: encode width value

def decode : Bytes → Nat
  | [] => 0
  | byte :: rest => byte.toNat * capacity rest.length + decode rest

@[simp] theorem length_encode (width value : Nat) : (encode width value).length = width := by
  induction width with
  | zero => rfl
  | succ width ih => simp [encode, ih]

theorem decode_lt (bytes : Bytes) : decode bytes < capacity bytes.length := by
  induction bytes with
  | nil => exact Nat.one_pos
  | cons byte rest ih =>
    have small : byte.toNat + 1 ≤ 256 := byte.toNat_lt
    have bound := Nat.mul_le_mul_right (capacity rest.length) small
    rw [decode, List.length_cons, capacity, Nat.mul_comm (capacity rest.length)]
    rw [Nat.add_mul, Nat.one_mul] at bound
    omega

theorem decode_encode (width value : Nat) :
    decode (encode width value) = value % capacity width := by
  induction width with
  | zero => exact (Nat.mod_one value).symm
  | succ width ih =>
    have byte : (UInt8.ofNat (value / capacity width)).toNat = value / capacity width % 256 :=
      UInt8.toNat_ofNat'
    rw [encode, decode, length_encode, ih, byte, capacity, Nat.mod_mul, Nat.mul_comm,
      Nat.add_comm]

theorem encode_add_mul (width high low : Nat) :
    encode width (high * capacity width + low) = encode width low := by
  induction width generalizing high with
  | zero => rfl
  | succ width ih =>
    have split : high * capacity (width + 1) + low = (high * 256) * capacity width + low := by
      rw [capacity, Nat.mul_comm (capacity width), Nat.mul_assoc]
    simp only [encode, split, ih, List.cons.injEq, and_true]
    rw [Nat.mul_comm (high * 256), Nat.mul_add_div (capacity_pos width)]
    apply UInt8.toNat_inj.mp
    simp only [UInt8.toNat_ofNat']
    omega

theorem encode_decode (bytes : Bytes) : encode bytes.length (decode bytes) = bytes := by
  induction bytes with
  | nil => rfl
  | cons byte rest ih =>
    simp only [List.length_cons, encode, decode, encode_add_mul, ih, List.cons.injEq, and_true]
    rw [Nat.mul_comm, Nat.mul_add_div (capacity_pos rest.length),
      Nat.div_eq_of_lt (decode_lt rest), Nat.add_zero]
    simp

end GroupChat.BigEndian

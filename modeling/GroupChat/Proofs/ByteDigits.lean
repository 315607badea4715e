import GroupChat.Bytes.BigEndian
import Mathlib.Data.Nat.Digits.Lemmas

/-!
Byte strings as numerals in base 256. Those that do not start with a zero byte are the numerals
without leading zeros: there is one for each number, the longer one of two is the greater, and two
of one length are ordered as strings.
-/
namespace GroupChat.BigEndian

theorem capacity_eq_pow (width : Nat) : capacity width = 256 ^ width := by
  induction width with
  | zero => rfl
  | succ width ih => rw [capacity, ih, Nat.pow_succ]

/-- The shortest byte string that denotes a number. -/
def digits (value : Nat) : Bytes := ((Nat.digits 256 value).map UInt8.ofNat).reverse

theorem decode_eq_ofDigits (bytes : Bytes) :
    decode bytes = Nat.ofDigits 256 (bytes.map UInt8.toNat).reverse := by
  induction bytes with
  | nil => rfl
  | cons byte rest ih =>
    rw [decode, List.map_cons, List.reverse_cons, Nat.ofDigits_append, Nat.ofDigits_singleton,
      List.length_reverse, List.length_map, ← ih, capacity_eq_pow, Nat.add_comm, Nat.mul_comm]

theorem digits_decode {bytes : Bytes} (normal : bytes.head? ≠ some 0) :
    digits (decode bytes) = bytes := by
  have bounds : ∀ digit ∈ (bytes.map UInt8.toNat).reverse, digit < 256 := by
    intro digit member
    obtain ⟨byte, -, rfl⟩ := List.mem_map.mp (List.mem_reverse.mp member)
    exact byte.toNat_lt
  have leading : ∀ present, (bytes.map UInt8.toNat).reverse.getLast present ≠ 0 := by
    cases bytes with
    | nil => exact fun present => absurd rfl present
    | cons byte rest => simpa [← UInt8.toNat_inj] using normal
  have bytesOf : (bytes.map UInt8.toNat).map UInt8.ofNat = bytes := by
    simp [Function.comp_def]
  rw [digits, decode_eq_ofDigits, Nat.digits_ofDigits 256 (by decide) _ bounds leading,
    List.map_reverse, List.reverse_reverse, bytesOf]

theorem compare_digit {base low other : Nat} (bound : low < base) (otherBound : other < base)
    (high otherHigh : Nat) :
    compare (high * base + low) (otherHigh * base + other) =
      (compare high otherHigh).then (compare low other) := by
  obtain less | rfl | greater := Nat.lt_trichotomy high otherHigh
  · have step := Nat.mul_le_mul_right base (Nat.succ_le_of_lt less)
    rw [Nat.succ_mul] at step
    rw [Nat.compare_eq_lt.mpr less, Nat.compare_eq_lt.mpr (by omega)]
    rfl
  · rw [Nat.compare_eq_eq.mpr rfl]
    simp [Nat.compare_eq_ite_lt]
  · have step := Nat.mul_le_mul_right base (Nat.succ_le_of_lt greater)
    rw [Nat.succ_mul] at step
    rw [Nat.compare_eq_gt.mpr greater, Nat.compare_eq_gt.mpr (by omega)]
    rfl

theorem compare_decode {a b : Bytes} (sizes : a.length = b.length) :
    compare (decode a) (decode b) = compare a b := by
  induction a generalizing b with
  | nil =>
    rw [List.eq_nil_of_length_eq_zero sizes.symm]
    rfl
  | cons byte rest ih =>
    obtain ⟨other, others, rfl⟩ := List.exists_cons_of_length_eq_add_one sizes.symm
    have size := Nat.succ.inj sizes
    have bound := decode_lt others
    rw [← size] at bound
    rw [decode, decode, ← size, compare_digit (decode_lt rest) bound, ih size,
      List.compare_cons_cons, UInt8.compare_eq_toNat_compare_toNat]

/-- Zero bytes apart, the longer string denotes the greater number. -/
theorem decode_lt_decode {a b : Bytes} (normal : b.head? ≠ some 0) (shorter : a.length < b.length) :
    decode a < decode b := by
  obtain ⟨byte, rest, rfl⟩ := List.exists_cons_of_length_pos (Nat.zero_lt_of_lt shorter)
  have positive : 0 < byte.toNat := by
    refine Nat.pos_of_ne_zero fun zero => normal ?_
    rw [UInt8.toNat_inj (b := 0) |>.mp zero]
    rfl
  calc decode a < capacity a.length := decode_lt a
    _ ≤ capacity rest.length := by
      rw [capacity_eq_pow, capacity_eq_pow]
      exact Nat.pow_le_pow_right (by decide) (Nat.le_of_lt_succ shorter)
    _ ≤ byte.toNat * capacity rest.length := Nat.le_mul_of_pos_left _ positive
    _ ≤ decode (byte :: rest) := Nat.le_add_right _ _

end GroupChat.BigEndian

import GroupChat.Bytes.Base64
import GroupChat.Proofs.ByteDigits

/-!
Base 64 told by numbers. The digits of a text, read as one number, are the bytes it stands for,
with two zero bits more for every `=`; `Spells` says so without going through the groups of four.
Each byte string is spelled by one text: the one that `encode` writes, and the only one that
`decode?` reads as it. The texts that spell anything at all are those in strict form.
-/
namespace GroupChat.Base64

def number (values : List Nat) : Nat := Nat.ofDigits 64 values.reverse

/-- The text is made of digits with the given values and of `fill` signs after them. -/
structure Shows (text : List Char) (values : List Nat) (fill : Nat) : Prop where
  text_eq : text = values.map digit ++ List.replicate fill '='
  bounds : ∀ value ∈ values, value < 64
  few : fill ≤ 2

def Spells (text : List Char) (bytes : Bytes) : Prop :=
  ∃ values fill, Shows text values fill ∧ 6 * values.length = 8 * bytes.length + 2 * fill ∧
    number values = BigEndian.decode bytes * 4 ^ fill

/-- The signs fill up the last group of four, and the bits of the last digit that reach beyond the
last byte are zero. -/
def IsStrict (text : List Char) : Prop :=
  ∃ values fill, Shows text values fill ∧ 4 ∣ values.length + fill ∧
    ∀ last ∈ values.getLast?, 4 ^ fill ∣ last

/-! ### The alphabet -/

theorem digitValue?_digit : ∀ value < 64, digitValue? (digit value) = some value := by
  decide +kernel

theorem digit_ne_fill : ∀ value < 64, digit value ≠ '=' := by
  decide +kernel

theorem digitValue?_eq_some {c : Char} {value : Nat} (known : digitValue? c = some value) :
    value < 64 ∧ digit value = c := by
  obtain ⟨bound, place, -⟩ := List.idxOf?_eq_some_iff.mp known
  refine ⟨bound, ?_⟩
  rw [digit, List.getD_eq_getElem?_getD, List.getElem?_eq_getElem bound, place, Option.getD_some]

/-! ### Numbers -/

@[simp] theorem number_nil : number [] = 0 := rfl

theorem number_append (high low : List Nat) :
    number (high ++ low) = number high * 64 ^ low.length + number low := by
  simp only [number, List.reverse_append, Nat.ofDigits_append, List.length_reverse]
  ring

theorem number_cons (value : Nat) (low : List Nat) :
    number (value :: low) = value * 64 ^ low.length + number low := by
  simpa [number] using number_append [value] low

theorem number_lt {values : List Nat} (bounds : ∀ value ∈ values, value < 64) :
    number values < 64 ^ values.length := by
  have bound := Nat.ofDigits_lt_base_pow_length (b := 64) (l := values.reverse) (by decide)
    (by simpa using bounds)
  rwa [List.length_reverse] at bound

theorem number_injective {a b : List Nat} (sizes : a.length = b.length)
    (boundsA : ∀ value ∈ a, value < 64) (boundsB : ∀ value ∈ b, value < 64)
    (equal : number a = number b) : a = b := by
  apply List.reverse_injective
  exact Nat.ofDigits_inj_of_len_eq (by decide) (by simpa using sizes) (by simpa using boundsA)
    (by simpa using boundsB) equal

theorem pow_of_sizes {digits size fill : Nat} (sizes : 6 * digits = 8 * size + 2 * fill) :
    64 ^ digits = BigEndian.capacity size * 4 ^ fill := by
  calc 64 ^ digits = 2 ^ (6 * digits) := by rw [Nat.pow_mul]
    _ = 2 ^ (8 * size) * 2 ^ (2 * fill) := by rw [sizes, Nat.pow_add]
    _ = BigEndian.capacity size * 4 ^ fill := by
        rw [Nat.pow_mul, Nat.pow_mul, BigEndian.capacity_eq_pow]

theorem ofNat_eq {n : Nat} {byte : UInt8} (value : n % 256 = byte.toNat) : UInt8.ofNat n = byte := by
  apply UInt8.toNat_inj.mp
  rw [UInt8.toNat_ofNat', value]

/-! ### Groups -/

theorem spells_nil : Spells [] [] := ⟨[], 0, ⟨rfl, by simp, by omega⟩, rfl, rfl⟩

section Groups

variable {v w x y : Nat} {a b c : UInt8} {text : List Char} {bytes : Bytes}

theorem spells_one (boundV : v < 64) (boundW : w < 64) (value : v * 64 + w = a.toNat * 16) :
    Spells [digit v, digit w, '=', '='] [a] := by
  refine ⟨[v, w], 2, ⟨rfl, by simp [boundV, boundW], le_rfl⟩, rfl, ?_⟩
  simpa [number_cons, number_nil, BigEndian.decode, BigEndian.capacity] using value

theorem spells_two (boundV : v < 64) (boundW : w < 64) (boundX : x < 64)
    (value : (v * 64 + w) * 64 + x = (a.toNat * 256 + b.toNat) * 4) :
    Spells [digit v, digit w, digit x, '='] [a, b] := by
  refine ⟨[v, w, x], 1, ⟨rfl, by simp [boundV, boundW, boundX], by omega⟩, rfl, ?_⟩
  simp only [number_cons, number_nil, BigEndian.decode, BigEndian.capacity, List.length_cons,
    List.length_nil]
  omega

theorem spells_three (boundV : v < 64) (boundW : w < 64) (boundX : x < 64) (boundY : y < 64)
    (value : ((v * 64 + w) * 64 + x) * 64 + y = (a.toNat * 256 + b.toNat) * 256 + c.toNat)
    (spells : Spells text bytes) :
    Spells (digit v :: digit w :: digit x :: digit y :: text) (a :: b :: c :: bytes) := by
  obtain ⟨values, fill, ⟨rfl, bounds, few⟩, sizes, numbers⟩ := spells
  refine ⟨v :: w :: x :: y :: values, fill, ⟨rfl, ?_, few⟩, ?_, ?_⟩
  · simpa [boundV, boundW, boundX, boundY] using bounds
  · simp only [List.length_cons]
    omega
  · have group : number (v :: w :: x :: y :: values) =
        (((v * 64 + w) * 64 + x) * 64 + y) * 64 ^ values.length + number values := by
      simp only [number_cons, List.length_cons]
      ring
    rw [group, value, pow_of_sizes sizes, numbers]
    simp only [BigEndian.decode, BigEndian.capacity, List.length_cons]
    ring

theorem decode?_one (boundV : v < 64) (boundW : w < 64) (value : v * 64 + w = a.toNat * 16) :
    decode? [digit v, digit w, '=', '='] = some [a] := by
  simp [decode?, digitValue?_digit v boundV, digitValue?_digit w boundW, value]

theorem decode?_two (boundV : v < 64) (boundW : w < 64) (boundX : x < 64)
    (value : (v * 64 + w) * 64 + x = (a.toNat * 256 + b.toNat) * 4) :
    decode? [digit v, digit w, digit x, '='] = some [a, b] := by
  have := b.toNat_lt
  have high : UInt8.ofNat ((a.toNat * 256 + b.toNat) * 4 / 1024) = a := ofNat_eq (by omega)
  rw [decode?]
  · simp [digitValue?_digit v boundV, digitValue?_digit w boundW, digitValue?_digit x boundX, value,
      high]
  · exact digit_ne_fill x boundX

theorem decode?_three (boundV : v < 64) (boundW : w < 64) (boundX : x < 64) (boundY : y < 64)
    (value : ((v * 64 + w) * 64 + x) * 64 + y = (a.toNat * 256 + b.toNat) * 256 + c.toNat)
    (read : decode? text = some bytes) :
    decode? (digit v :: digit w :: digit x :: digit y :: text) = some (a :: b :: c :: bytes) := by
  have := a.toNat_lt
  have := b.toNat_lt
  have := c.toNat_lt
  have high : UInt8.ofNat (((a.toNat * 256 + b.toNat) * 256 + c.toNat) / 65536) = a :=
    ofNat_eq (by omega)
  have middle : UInt8.ofNat (((a.toNat * 256 + b.toNat) * 256 + c.toNat) / 256) = b :=
    ofNat_eq (by omega)
  have low : UInt8.ofNat ((a.toNat * 256 + b.toNat) * 256 + c.toNat) = c := ofNat_eq (by omega)
  rw [decode?]
  · simp only [digitValue?_digit v boundV, digitValue?_digit w boundW, digitValue?_digit x boundX,
      digitValue?_digit y boundY, value, read, high, middle, low, Option.bind_eq_bind,
      Option.bind_some, Option.pure_def]
  -- A group that ends in a digit is none of the two that end in signs, whatever follows it.
  · exact fun _ fill _ => digit_ne_fill y boundY fill
  · exact fun fill _ => digit_ne_fill y boundY fill

end Groups

/-! ### Writing and reading -/

theorem decode?_encode (bytes : Bytes) : decode? (encode bytes) = some bytes := by
  fun_induction encode bytes with
  | case1 => rfl
  | case2 a group =>
    have := a.toNat_lt
    exact decode?_one (by omega) (by omega) (by omega)
  | case3 a b group =>
    have := a.toNat_lt
    have := b.toNat_lt
    exact decode?_two (by omega) (by omega) (by omega) (by omega)
  | case4 a b c rest group ih =>
    have := a.toNat_lt
    have := b.toNat_lt
    have := c.toNat_lt
    exact decode?_three (by omega) (by omega) (by omega) (by omega) (by omega) ih

theorem spells_of_decode? {text : List Char} {bytes : Bytes} (read : decode? text = some bytes) :
    Spells text bytes := by
  fun_induction decode? text generalizing bytes with
  | case1 =>
    cases read
    exact spells_nil
  | case2 v w =>
    simp only [Option.bind_eq_bind, Option.bind_eq_some_iff] at read
    obtain ⟨_, knownV, _, knownW, read⟩ := read
    obtain ⟨boundV, rfl⟩ := digitValue?_eq_some knownV
    obtain ⟨boundW, rfl⟩ := digitValue?_eq_some knownW
    split at read
    · cases read
      apply spells_one boundV boundW
      rw [UInt8.toNat_ofNat']
      omega
    · cases read
  | case3 v w x =>
    simp only [Option.bind_eq_bind, Option.bind_eq_some_iff] at read
    obtain ⟨_, knownV, _, knownW, _, knownX, read⟩ := read
    obtain ⟨boundV, rfl⟩ := digitValue?_eq_some knownV
    obtain ⟨boundW, rfl⟩ := digitValue?_eq_some knownW
    obtain ⟨boundX, rfl⟩ := digitValue?_eq_some knownX
    split at read
    · cases read
      apply spells_two boundV boundW boundX
      rw [UInt8.toNat_ofNat', UInt8.toNat_ofNat']
      omega
    · cases read
  | case4 v w x y rest _ _ ih =>
    simp only [Option.bind_eq_bind, Option.bind_eq_some_iff] at read
    obtain ⟨_, knownV, _, knownW, _, knownX, _, knownY, tail, readRest, read⟩ := read
    obtain ⟨boundV, rfl⟩ := digitValue?_eq_some knownV
    obtain ⟨boundW, rfl⟩ := digitValue?_eq_some knownW
    obtain ⟨boundX, rfl⟩ := digitValue?_eq_some knownX
    obtain ⟨boundY, rfl⟩ := digitValue?_eq_some knownY
    cases read
    apply spells_three boundV boundW boundX boundY ?_ (ih readRest)
    rw [UInt8.toNat_ofNat', UInt8.toNat_ofNat', UInt8.toNat_ofNat']
    omega
  | case5 => cases read

theorem Spells.text_eq {a b : List Char} {bytes : Bytes} (spellsA : Spells a bytes)
    (spellsB : Spells b bytes) : a = b := by
  obtain ⟨valuesA, fillA, ⟨rfl, boundsA, fewA⟩, sizeA, numberA⟩ := spellsA
  obtain ⟨valuesB, fillB, ⟨rfl, boundsB, fewB⟩, sizeB, numberB⟩ := spellsB
  obtain rfl : fillA = fillB := by omega
  have values : valuesA = valuesB :=
    number_injective (by omega) boundsA boundsB (numberA.trans numberB.symm)
  rw [values]

theorem encode_eq_iff {bytes : Bytes} {text : List Char} :
    encode bytes = text ↔ Spells text bytes := by
  have spells : Spells (encode bytes) bytes := spells_of_decode? (decode?_encode bytes)
  constructor
  · rintro rfl
    exact spells
  · exact spells.text_eq

theorem decode?_eq_some_iff {text : List Char} {bytes : Bytes} :
    decode? text = some bytes ↔ encode bytes = text := by
  constructor
  · intro read
    exact encode_eq_iff.mpr (spells_of_decode? read)
  · rintro rfl
    exact decode?_encode bytes

/-! ### The strict form -/

theorem pow_dvd_number {values : List Nat} {fill : Nat} (few : fill ≤ 2) :
    4 ^ fill ∣ number values ↔ ∀ last ∈ values.getLast?, 4 ^ fill ∣ last := by
  rcases values.eq_nil_or_concat with rfl | ⟨init, last, rfl⟩
  · simp
  · have whole : 4 ^ fill ∣ 64 := pow_dvd_pow 4 (show fill ≤ 3 by omega)
    have split : number (init ++ [last]) = number init * 64 + last := number_append init [last]
    rw [List.concat_eq_append, split, Nat.dvd_add_right (whole.mul_left _)]
    simp

theorem exists_spells_iff {text : List Char} : (∃ bytes, Spells text bytes) ↔ IsStrict text := by
  constructor
  · rintro ⟨bytes, values, fill, shown, sizes, numbers⟩
    refine ⟨values, fill, shown, by omega, (pow_dvd_number shown.few).mp ?_⟩
    rw [numbers]
    exact Nat.dvd_mul_left _ _
  · rintro ⟨values, fill, shown, ⟨groups, whole⟩, spare⟩
    have few := shown.few
    obtain ⟨n, numbers⟩ := (pow_dvd_number few).mpr spare
    have sizes : 6 * values.length = 8 * (3 * groups - fill) + 2 * fill := by omega
    have bound : n < BigEndian.capacity (3 * groups - fill) := by
      have total := number_lt shown.bounds
      rw [pow_of_sizes sizes, numbers, Nat.mul_comm] at total
      exact Nat.lt_of_mul_lt_mul_right total
    refine ⟨BigEndian.encode (3 * groups - fill) n, values, fill, shown, ?_, ?_⟩
    · rw [BigEndian.length_encode, sizes]
    · rw [BigEndian.decode_encode, Nat.mod_eq_of_lt bound, numbers, Nat.mul_comm]

end GroupChat.Base64

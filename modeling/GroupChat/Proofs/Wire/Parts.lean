import GroupChat.Payload
import GroupChat.Wire.Writer

/-!
The parts that frames are made of, as they stand on the wire. A number may stand there with zero
bytes before its first digit; taking them off gives its normal form, which is the shortest one.
-/
namespace GroupChat

theorem Mpi.length_ofBytes_le (digits : Bytes) : (ofBytes digits).bytes.length ≤ digits.length :=
  (List.dropWhile_sublist _).length_le

theorem Mpi.length_ofBytes_lt {digits : Bytes} (padded : digits.head? = some 0) :
    (ofBytes digits).bytes.length < digits.length := by
  obtain ⟨rest, rfl⟩ := List.head?_eq_some_iff.mp padded
  rw [ofBytes_zero_cons]
  exact Nat.lt_succ_of_le (length_ofBytes_le rest)

namespace Block

variable {width : Nat}

def value (digits : Block width) : Nat := BigEndian.decode digits.bytes

def ofValue (width value : Nat) : Block width := ⟨BigEndian.encode width value, by simp⟩

theorem value_lt (digits : Block width) : digits.value < BigEndian.capacity width := by
  have bound := BigEndian.decode_lt digits.bytes
  rwa [digits.size_eq] at bound

theorem value_ofValue (width value : Nat) :
    (ofValue width value).value = value % BigEndian.capacity width :=
  BigEndian.decode_encode width value

theorem ofValue_value (digits : Block width) : ofValue width digits.value = digits := by
  have same := BigEndian.encode_decode digits.bytes
  rw [digits.size_eq] at same
  exact Block.ext same

theorem ofValue_uint16 (digits : Block 2) :
    ofValue 2 (UInt16.ofNat digits.value).toNat = digits := by
  have bound : digits.value < UInt16.size := digits.value_lt
  rw [UInt16.toNat_ofNat_of_lt' bound, ofValue_value]

theorem ofValue_uint32 (digits : Block 4) :
    ofValue 4 (UInt32.ofNat digits.value).toNat = digits := by
  have bound : digits.value < UInt32.size := digits.value_lt
  rw [UInt32.toNat_ofNat_of_lt' bound, ofValue_value]

theorem ofValue_uint64 (digits : Block 8) :
    ofValue 8 (UInt64.ofNat digits.value).toNat = digits := by
  have bound : digits.value < UInt64.size := digits.value_lt
  rw [UInt64.toNat_ofNat_of_lt' bound, ofValue_value]

theorem uint16_ofValue (number : UInt16) :
    UInt16.ofNat (ofValue 2 number.toNat).value = number := by
  have bound : number.toNat < BigEndian.capacity 2 := number.toNat_lt
  rw [value_ofValue, Nat.mod_eq_of_lt bound, UInt16.ofNat_toNat]

theorem uint32_ofValue (number : UInt32) :
    UInt32.ofNat (ofValue 4 number.toNat).value = number := by
  have bound : number.toNat < BigEndian.capacity 4 := number.toNat_lt
  rw [value_ofValue, Nat.mod_eq_of_lt bound, UInt32.ofNat_toNat]

theorem uint64_ofValue (number : UInt64) :
    UInt64.ofNat (ofValue 8 number.toNat).value = number := by
  have bound : number.toNat < BigEndian.capacity 8 := number.toNat_lt
  rw [value_ofValue, Nat.mod_eq_of_lt bound, UInt64.ofNat_toNat]

end Block

inductive Part where
  | plain (bytes : Bytes)
  /-- How many parts of a kind follow. -/
  | count (size : Nat)
  | field (content : Bytes)
  | number (digits : Bytes)

namespace Part

def sized (content : Bytes) : Bytes := BigEndian.encode Layout.lengthSize content.length ++ content

def bytes : Part → Bytes
  | plain bytes => bytes
  | count size => BigEndian.encode Layout.lengthSize size
  | field content => sized content
  | number digits => sized digits

@[simp] theorem bytes_plain (bytes : Bytes) : (plain bytes).bytes = bytes := rfl

/-- Counts and lengths must fit in their four bytes. -/
def Fits : Part → Prop
  | plain _ => True
  | count size => size < UInt32.size
  | field content => content.length < UInt32.size
  | number digits => digits.length < UInt32.size

def strip : Part → Part
  | number digits => number (Mpi.ofBytes digits).bytes
  | part => part

def IsPadded : Part → Prop
  | number digits => digits.head? = some 0
  | _ => False

def put : Part → Writer
  | plain bytes => Writer.put bytes
  | count size => Writer.putLength size
  | field content => Writer.putField content
  | number digits => Writer.putField digits

theorem strip_of_not_isPadded {part : Part} (normal : ¬ part.IsPadded) : part.strip = part := by
  cases part with
  | number digits => rw [strip, Mpi.ofBytes_of_head normal]
  | plain => rfl
  | count => rfl
  | field => rfl

theorem fits_strip {part : Part} (fits : part.Fits) : part.strip.Fits := by
  cases part with
  | number digits => exact Nat.lt_of_le_of_lt (Mpi.length_ofBytes_le digits) fits
  | plain => exact fits
  | count => exact fits
  | field => exact fits

theorem length_bytes_strip_le (part : Part) : part.strip.bytes.length ≤ part.bytes.length := by
  cases part with
  | number digits =>
    have shorter := Mpi.length_ofBytes_le digits
    simp only [strip, bytes, sized, List.length_append, BigEndian.length_encode]
    omega
  | plain => exact Nat.le_refl _
  | count => exact Nat.le_refl _
  | field => exact Nat.le_refl _

theorem bytes_strip_eq_iff (part : Part) : part.strip.bytes = part.bytes ↔ ¬ part.IsPadded := by
  constructor
  · intro same padded
    cases part with
    | number digits =>
      have shorter := Mpi.length_ofBytes_lt padded
      have lengths := congrArg List.length same
      simp only [strip, bytes, sized, List.length_append, BigEndian.length_encode] at lengths
      omega
    | plain => exact padded
    | count => exact padded
    | field => exact padded
  · intro normal
    rw [strip_of_not_isPadded normal]

def join (parts : List Part) : Bytes := parts.flatMap bytes

@[simp] theorem join_nil : join [] = [] := rfl

@[simp] theorem join_cons (part : Part) (parts : List Part) :
    join (part :: parts) = part.bytes ++ join parts := rfl

theorem length_join_strip_le (parts : List Part) :
    (join (parts.map strip)).length ≤ (join parts).length := by
  induction parts with
  | nil => exact Nat.le_refl _
  | cons part parts ih =>
    have first := part.length_bytes_strip_le
    simp only [List.map_cons, join_cons, List.length_append]
    omega

theorem join_strip_eq_iff (parts : List Part) :
    join (parts.map strip) = join parts ↔ ∀ part ∈ parts, ¬ part.IsPadded := by
  induction parts with
  | nil => simp
  | cons part parts ih =>
    have first := part.length_bytes_strip_le
    have others := length_join_strip_le parts
    simp only [List.map_cons, join_cons, List.forall_mem_cons]
    rw [← ih, ← bytes_strip_eq_iff]
    constructor
    · intro same
      have lengths := congrArg List.length same
      simp only [List.length_append] at lengths
      exact List.append_inj same (by omega)
    · intro same
      obtain ⟨sameFirst, sameOthers⟩ := same
      rw [sameFirst, sameOthers]

end Part

end GroupChat

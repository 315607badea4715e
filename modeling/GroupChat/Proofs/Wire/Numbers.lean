import GroupChat.Proofs.ByteDigits
import GroupChat.Proofs.Wire.PayloadShape

/-!
Numbers of any size and the natural numbers that they denote. A number has no zero byte before its
first digit, so its bytes are the digits of its value, and the longer one of two is the greater.
That is why equality and order are those of the values, and why a number that is read off the wire
with zero bytes before it is written without them.
-/
namespace GroupChat

namespace Mpi

theorem bytes_eq_digits (number : Mpi) : number.bytes = BigEndian.digits number.value :=
  (BigEndian.digits_decode number.noLeadingZero).symm

theorem value_inj {a b : Mpi} : a.value = b.value ↔ a = b := by
  refine ⟨fun same => ?_, congrArg value⟩
  have bytes : a.bytes = b.bytes := by rw [bytes_eq_digits, same, ← bytes_eq_digits]
  rw [← ofBytes_bytes a, bytes, ofBytes_bytes]

theorem isZero_iff (number : Mpi) : number.isZero ↔ number.value = 0 := by
  have zero : (ofBytes []).value = 0 := rfl
  rw [isZero, List.isEmpty_iff, ← zero, value_inj]
  exact ⟨fun empty => by rw [← ofBytes_bytes number, empty], congrArg bytes⟩

theorem value_ofUInt64 (value : UInt64) : (ofUInt64 value).value = value.toNat := by
  rw [ofUInt64, value_ofBytes, BigEndian.decode_encode]
  exact Nat.mod_eq_of_lt value.toNat_lt

theorem compare_eq (a b : Mpi) : compare a b = compare a.value b.value := by
  have unfolded : compare a b =
    (compare a.bytes.length b.bytes.length).then (compare a.bytes b.bytes) := rfl
  rw [unfolded]
  obtain shorter | same | longer := Nat.lt_trichotomy a.bytes.length b.bytes.length
  · have less := BigEndian.decode_lt_decode b.noLeadingZero shorter
    rw [Nat.compare_eq_lt.mpr shorter, value, value, Nat.compare_eq_lt.mpr less]
    rfl
  · rw [Nat.compare_eq_eq.mpr same, value, value, BigEndian.compare_decode same]
    rfl
  · have less := BigEndian.decode_lt_decode a.noLeadingZero longer
    rw [Nat.compare_eq_gt.mpr longer, value, value, Nat.compare_eq_gt.mpr less]
    rfl

end Mpi

def Part.numeral? : Part → Option Bytes
  | number digits => some digits
  | _ => none

namespace Payload

def numbers : Payload → List Mpi
  | dakeHandshake ephemeralPublic longTermPublic => [ephemeralPublic, longTermPublic]
  | gkaUpflow _ interKeys | gkaDownflow interKeys => interKeys
  | _ => []

theorem numbers_of_spelled {payload : Payload} {parts : List Part}
    (spelled : payload.Spelled parts) :
    payload.numbers = (parts.filterMap Part.numeral?).map Mpi.ofBytes := by
  have keys (numerals : List Bytes) :
      (numerals.map Part.number).filterMap Part.numeral? = numerals := by
    rw [List.filterMap_map]
    exact List.filterMap_some
  cases spelled with
  | gkaUpflow recipient numerals =>
    rw [List.filterMap_cons_none rfl, List.filterMap_cons_none rfl, keys, numbers]
  | gkaDownflow numerals => rw [List.filterMap_cons_none rfl, keys, numbers]
  | _ => rfl

end Payload

namespace Mpi

/-- Numbers made of any bytes are equal, ordered and zero as the numbers that the bytes denote.
However a number is read off the wire, its bytes are the digits of the number that stands there, and
what is written of it depends on nothing else. -/
theorem denotes_natural (a b : Bytes) :
    (ofBytes a = ofBytes b ↔ BigEndian.decode a = BigEndian.decode b) ∧
    compare (ofBytes a) (ofBytes b) = compare (BigEndian.decode a) (BigEndian.decode b) ∧
    (ofBytes a).bytes.head? ≠ some 0 ∧
    BigEndian.decode (ofBytes a).bytes = BigEndian.decode a ∧
    ((ofBytes a).isZero ↔ BigEndian.decode a = 0) ∧
    ofBytes (ofBytes a).bytes = ofBytes a ∧
    (∀ value : UInt64, (ofUInt64 value).value = value.toNat) ∧
    (∀ buffer rest number, FrameReader.mpi buffer = .ok number rest →
      ∃ numeral, buffer = (Part.number numeral).bytes ++ rest ∧
        number.bytes = BigEndian.digits (BigEndian.decode numeral)) ∧
    (∀ kind buffer rest payload, Payload.read kind buffer = .ok payload rest →
      ∃ parts, payload.Spelled parts ∧ buffer = Part.join parts ∧
        payload.numbers.map bytes = (parts.filterMap Part.numeral?).map fun numeral =>
          BigEndian.digits (BigEndian.decode numeral)) ∧
    ∀ number : Mpi, Writer.putMpi number = Writer.putField (BigEndian.digits number.value) := by
  have normal (numeral : Bytes) :
      (ofBytes numeral).bytes = BigEndian.digits (BigEndian.decode numeral) := by
    rw [bytes_eq_digits, value_ofBytes]
  refine ⟨?_, ?_, (ofBytes a).noLeadingZero, value_ofBytes a, ?_, ofBytes_bytes _, value_ofUInt64,
    ?_, ?_, fun number => congrArg Writer.putField number.bytes_eq_digits⟩
  · rw [← value_inj, value_ofBytes, value_ofBytes]
  · rw [compare_eq, value_ofBytes, value_ofBytes]
  · rw [isZero_iff, value_ofBytes]
  · intro buffer rest number read
    obtain ⟨numeral, rfl, -, spelled⟩ := FrameReader.mpi_eq_ok.mp read
    exact ⟨numeral, spelled, normal numeral⟩
  · intro kind buffer rest payload read
    obtain ⟨-, -, parts, spelled, -, whole⟩ := Payload.spelled_of_read read
    refine ⟨parts, spelled, whole.symm, ?_⟩
    rw [Payload.numbers_of_spelled spelled, List.map_map]
    exact List.map_congr_left fun numeral _ => normal numeral

end Mpi

end GroupChat

import GroupChat.Proofs.Wire.Extent
import GroupChat.Signing.Signature

/-!
The written form of signatures, alone and in a row. A signature is written in one way and read from
that only. Read one after the other, written signatures come back as they were; where their bytes
are cut short, the ones that are complete come back, and then what is left is too short.
-/
namespace GroupChat

open GroupChat.Part Reader

def SigningError.IsShort (reason : SigningError) : Prop := reason = tooShort

theorem SigningError.isShort_tooShort : IsShort tooShort := rfl

open SigningError

namespace Signature

def Fits (signature : Signature) : Prop :=
  signature.r.length < UInt32.size ∧ signature.s.length < UInt32.size

def bytes (signature : Signature) : Bytes := sized signature.r ++ sized signature.s

theorem bytes_ne_nil (signature : Signature) : signature.bytes ≠ [] := by
  simp [bytes, sized, BigEndian.encode]

theorem encode_of_fits {signature : Signature} (fits : signature.Fits) :
    signature.encode = .ok signature.bytes := by
  have first : encodeComponent signature.r = .ok (sized signature.r) := if_pos fits.1
  have second : encodeComponent signature.s = .ok (sized signature.s) := if_pos fits.2
  rw [encode, first, second]
  rfl

theorem readComponent_eq :
    readComponent =
      (Reader.ensure Layout.lengthSize .tooShort >>= fun _ =>
        Reader.takeNat Layout.lengthSize) >>= fun size =>
      Reader.ensure size .tooShort >>= fun _ => Reader.take size := by
  simp only [readComponent, bind_assoc]

theorem takes_readComponent {component : Bytes} (fits : (field component).Fits) :
    Takes IsShort readComponent (field component).bytes component := by
  have size : (count component.length).Fits := fits
  rw [readComponent_eq]
  exact (takes_size isShort_tooShort size).bind (takes_content isShort_tooShort component)

theorem takes_read {signature : Signature} (fits : signature.Fits) :
    Takes IsShort read signature.bytes signature :=
  (takes_readComponent fits.1).bind ((takes_readComponent fits.2).map (Signature.mk signature.r))

variable {buffer rest : Bytes}

theorem spelled_of_readComponent {component : Bytes}
    (ok : readComponent buffer = .ok component rest) :
    (field component).Fits ∧ buffer = (field component).bytes ++ rest := by
  simp only [readComponent, bind_eq_ok, ensure_eq_ok, takeNat_eq_ok, take_eq_ok] at ok
  obtain ⟨_, _, ⟨_, rfl⟩, _, _, ⟨digits, rfl, rfl⟩, _, _, ⟨_, rfl⟩, size, rfl⟩ := ok
  have lengthBytes : BigEndian.encode Layout.lengthSize component.length = digits.bytes := by
    rw [size]
    exact congrArg Block.bytes digits.ofValue_value
  refine ⟨?_, by simp [Part.bytes, sized, lengthBytes]⟩
  rw [Part.Fits, size]
  exact digits.value_lt

theorem spelled_of_read {signature : Signature} (ok : read buffer = .ok signature rest) :
    signature.Fits ∧ buffer = signature.bytes ++ rest := by
  simp only [read, bind_eq_ok, pure_eq_ok] at ok
  obtain ⟨r, _, first, s, _, second, rfl, rfl⟩ := ok
  obtain ⟨firstFits, rfl⟩ := spelled_of_readComponent first
  obtain ⟨secondFits, rfl⟩ := spelled_of_readComponent second
  exact ⟨⟨firstFits, secondFits⟩, by simp [bytes, Part.bytes]⟩

theorem decode_eq_ok {written : Bytes} {signature : Signature} :
    decode written = .ok signature ↔ signature.Fits ∧ written = signature.bytes := by
  simp only [decode, eval_eq_ok, toEnd_eq_ok]
  constructor
  · intro decoded
    obtain ⟨_, rfl, ok⟩ := decoded
    simpa using spelled_of_read ok
  · intro spelled
    obtain ⟨fits, rfl⟩ := spelled
    have ok := (takes_read fits).ok []
    rw [List.append_nil] at ok
    exact ⟨[], rfl, ok⟩

/-! ### Signatures in a row -/

def stream (signatures : List Signature) : Bytes := signatures.flatMap bytes

@[simp] theorem stream_nil : stream [] = [] := rfl

@[simp] theorem stream_cons (signature : Signature) (signatures : List Signature) :
    stream (signature :: signatures) = signature.bytes ++ stream signatures := rfl

theorem stream_append (front back : List Signature) :
    stream (front ++ back) = stream front ++ stream back := List.flatMap_append

theorem length_le_length_stream (signatures : List Signature) :
    signatures.length ≤ (stream signatures).length := by
  induction signatures with
  | nil => exact Nat.le_refl _
  | cons signature signatures ih =>
    have size := List.length_pos_iff.mpr signature.bytes_ne_nil
    simp only [stream_cons, List.length_cons, List.length_append]
    omega

/-- Every signature of a stream as it is read, with the number of bytes that are left after it: those
of the signatures that follow and of what follows them. -/
def readings :
    List Signature → (tail : Bytes) → List (Except (ReadError SigningError) Signature × Nat)
  | [], _ => []
  | signature :: signatures, tail =>
    (.ok signature, (stream signatures ++ tail).length) :: readings signatures tail

theorem left_of_getLast?_readings {signatures : List Signature} {tail : Bytes} :
    ∀ last ∈ (readings signatures tail).getLast?, last.2 = tail.length := by
  induction signatures with
  | nil => simp [readings]
  | cons signature signatures ih =>
    cases signatures with
    | nil => simp [readings]
    | cons => simpa only [readings, List.getLast?_cons_cons] using ih

theorem readMany_of_ok {signature : Signature} {count : Nat}
    (ok : read buffer = .ok signature rest) (present : buffer ≠ []) :
    readMany (count + 1) buffer = (.ok signature, rest.length) :: readMany count rest := by
  cases buffer with
  | nil => exact absurd rfl present
  | cons => rw [readMany, ok]

theorem readMany_of_error {error : ReadError SigningError} {count : Nat}
    (failed : read buffer = .error error rest) (present : buffer ≠ []) :
    readMany (count + 1) buffer = [(.error error, rest.length)] := by
  cases buffer with
  | nil => exact absurd rfl present
  | cons => rw [readMany, failed]

theorem readMany_nil (count : Nat) : readMany count [] = [] := by
  cases count <;> rfl

theorem readMany_stream {signatures : List Signature} {tail : Bytes} (count : Nat)
    (fits : ∀ signature ∈ signatures, signature.Fits) :
    readMany (signatures.length + count) (stream signatures ++ tail) =
      readings signatures tail ++ readMany count tail := by
  induction signatures with
  | nil => rw [List.length_nil, Nat.zero_add]; rfl
  | cons signature signatures ih =>
    obtain ⟨firstFits, othersFit⟩ := List.forall_mem_cons.mp fits
    have ok := (takes_read firstFits).ok (stream signatures ++ tail)
    have present : signature.bytes ++ (stream signatures ++ tail) ≠ [] := by
      simp [signature.bytes_ne_nil]
    rw [List.length_cons, Nat.add_right_comm, stream_cons, List.append_assoc,
      readMany_of_ok ok present, ih othersFit]
    rfl

theorem readAll_stream {signatures : List Signature}
    (fits : ∀ signature ∈ signatures, signature.Fits) :
    readAll (stream signatures) = readings signatures [] := by
  obtain ⟨spare, enough⟩ := Nat.exists_eq_add_of_le (length_le_length_stream signatures)
  have all : _ = readings signatures [] ++ readMany spare [] := readMany_stream spare fits
  rwa [readMany_nil, List.append_nil, List.append_nil, ← enough] at all

theorem stream_prefix {front signatures : List Signature} (start : front <+: signatures) :
    stream front <+: stream signatures := by
  obtain ⟨back, rfl⟩ := start
  rw [stream_append]
  exact List.prefix_append _ _

structure IsCut (signatures : List Signature) (cut : Bytes) (complete : Nat) (tail : Bytes) :
    Prop where
  cut_eq : cut = stream (signatures.take complete) ++ tail
  within : ∃ signature, signatures[complete]? = some signature ∧ tail <+: signature.bytes ∧
    tail ≠ signature.bytes

theorem exists_isCut {signatures : List Signature} {cut : Bytes}
    (start : cut <+: stream signatures) (proper : cut ≠ stream signatures) :
    ∃ complete tail, IsCut signatures cut complete tail := by
  induction signatures generalizing cut with
  | nil => exact absurd (List.prefix_nil.mp start) proper
  | cons signature signatures ih =>
    obtain ⟨within, short⟩ | ⟨kept, rfl, beyond⟩ := prefix_append_cases start
    · exact ⟨0, cut, rfl, signature, rfl, within, short⟩
    · have short : kept ≠ stream signatures := fun same => proper (by rw [same, stream_cons])
      obtain ⟨complete, tail, cut_eq, next⟩ := ih beyond short
      refine ⟨complete + 1, tail, ?_, next⟩
      rw [List.take_succ_cons, stream_cons, List.append_assoc, ← cut_eq]

theorem IsCut.complete_iff {signatures : List Signature} {cut tail : Bytes} {complete : Nat}
    (isCut : IsCut signatures cut complete tail) (count : Nat) :
    stream (signatures.take count) <+: cut ↔ count ≤ complete := by
  obtain ⟨rfl, signature, next, start, proper⟩ := isCut
  constructor
  · intro whole
    refine Nat.le_of_not_lt fun more => ?_
    have later : stream (signatures.take (complete + 1)) <+: stream (signatures.take count) :=
      stream_prefix (List.take_prefix_take_left more)
    rw [List.take_add_one, next, Option.toList_some, stream_append] at later
    have size := (later.trans whole).length_le
    have shorter := length_lt_of_prefix start proper
    simp only [List.length_append, stream_cons, stream_nil, List.append_nil] at size
    omega
  · intro earlier
    have front : stream (signatures.take count) <+: stream (signatures.take complete) :=
      stream_prefix (List.take_prefix_take_left earlier)
    exact front.trans (List.prefix_append _ _)

theorem IsCut.readAll_eq {signatures : List Signature} {cut tail : Bytes} {complete : Nat}
    (isCut : IsCut signatures cut complete tail) (fits : ∀ signature ∈ signatures, signature.Fits) :
    if tail = [] then readAll cut = readings (signatures.take complete) []
    else ∃ left, readAll cut =
      readings (signatures.take complete) tail ++ [(.error (.refused .tooShort), left)] := by
  obtain ⟨rfl, signature, next, start, proper⟩ := isCut
  have takenFit : ∀ signature ∈ signatures.take complete, signature.Fits :=
    fun signature taken => fits signature (List.mem_of_mem_take taken)
  split
  case isTrue empty =>
    rw [empty, List.append_nil]
    exact readAll_stream takenFit
  case isFalse present =>
    have needed := takes_read (fits signature (List.mem_of_getElem? next))
    obtain ⟨_, rest, rfl, failed⟩ := needed.needs tail start proper
    have room : (signatures.take complete).length + 1 ≤
        (stream (signatures.take complete) ++ tail).length := by
      have each := length_le_length_stream (signatures.take complete)
      have more := List.length_pos_iff.mpr present
      rw [List.length_append]
      omega
    obtain ⟨spare, enough⟩ := Nat.exists_eq_add_of_le room
    refine ⟨rest.length, ?_⟩
    rw [readAll, enough, Nat.add_assoc, Nat.add_comm 1, readMany_stream _ takenFit,
      readMany_of_error failed present]

/-! ### What is written and read -/

/-- Signatures are read as they were written, and from nothing else, alone and in a row. -/
theorem encoding_exact :
    (∀ signature : Signature, signature.Fits →
      signature.encode = .ok signature.bytes ∧ decode signature.bytes = .ok signature ∧
      (∀ cut, cut <+: signature.bytes → cut ≠ signature.bytes →
        decode cut = .error (.refused .tooShort)) ∧
      ∀ extra, extra ≠ [] →
        decode (signature.bytes ++ extra) = .error (.refused (.trailing extra.length))) ∧
    (∀ written signature, decode written = .ok signature → signature.encode = .ok written) ∧
    ∀ signatures : List Signature, (∀ signature ∈ signatures, signature.Fits) →
      readAll (stream signatures) = readings signatures [] ∧
      (∀ last ∈ (readAll (stream signatures)).getLast?, last.2 = 0) ∧
      ∀ cut, cut <+: stream signatures → cut ≠ stream signatures →
        ∃ complete tail, cut = stream (signatures.take complete) ++ tail ∧
          (∀ count, stream (signatures.take count) <+: cut ↔ count ≤ complete) ∧
          if tail = [] then readAll cut = readings (signatures.take complete) []
          else ∃ left, readAll cut =
            readings (signatures.take complete) tail ++
              [(.error (.refused .tooShort), left)] := by
  refine ⟨fun signature fits => ?_, fun written signature decoded => ?_,
    fun signatures fits => ⟨readAll_stream fits, ?_, fun cut start proper => ?_⟩⟩
  · have fills := (takes_read fits).toEnd .trailing
    refine ⟨encode_of_fits fits, decode_eq_ok.mpr ⟨fits, rfl⟩, fun cut start proper => ?_,
      fun extra present => ?_⟩
    · obtain ⟨_, rfl, failed⟩ := (fills.needs cut start proper).eval_eq
      exact failed
    · obtain ⟨_, rfl, failed⟩ := (fills.extended extra present).eval_eq
      exact failed
  · obtain ⟨fits, rfl⟩ := decode_eq_ok.mp decoded
    exact encode_of_fits fits
  · rw [readAll_stream fits]
    exact left_of_getLast?_readings
  · obtain ⟨complete, tail, isCut⟩ := exists_isCut start proper
    exact ⟨complete, tail, isCut.cut_eq, isCut.complete_iff, isCut.readAll_eq fits⟩

def twoSignatures : List Signature := [⟨[], []⟩, ⟨[1], [2, 3]⟩]

theorem encoding_exact_two :
    (∀ signature ∈ twoSignatures, signature.Fits) ∧
      (stream twoSignatures).take 17 ≠ stream twoSignatures ∧
      readAll (stream twoSignatures) = readings twoSignatures [] ∧
      ∃ complete tail, (stream twoSignatures).take 17 = stream (twoSignatures.take complete) ++ tail ∧
        (stream (twoSignatures.take 1) <+: (stream twoSignatures).take 17 ↔ 1 ≤ complete) := by
  have fits : ∀ signature ∈ twoSignatures, signature.Fits := by
    simp [twoSignatures, Fits, UInt32.size]
  have proper : (stream twoSignatures).take 17 ≠ stream twoSignatures := by decide
  obtain ⟨-, -, streams⟩ := encoding_exact
  obtain ⟨whole, -, cuts⟩ := streams twoSignatures fits
  obtain ⟨complete, tail, cut_eq, count, -⟩ := cuts _ (List.take_prefix 17 _) proper
  exact ⟨fits, proper, whole, complete, tail, cut_eq, count 1⟩

/-- After the first signature nine bytes are left, and of those the first component takes five. -/
example : readAll ([0, 0, 0, 0, 0, 0, 0, 0] ++ [0, 0, 0, 1, 1, 0, 0, 0, 2]) =
    [(.ok ⟨[], []⟩, 9), (.error (.refused .tooShort), 0)] := by cbv

end Signature

end GroupChat

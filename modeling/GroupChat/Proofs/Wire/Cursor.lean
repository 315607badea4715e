import GroupChat.Proofs.Wire.Guards
import GroupChat.Proofs.Wire.Refusals
import GroupChat.Proofs.Wire.Writing

/-!
Reads in turn on one buffer. Each goes on from what the one before left, whether or not that was
ok, and depends on nothing else that came before. A read is ok when what it asks for is there, and
takes the bytes that spell its value, so writing the value gives them back, a number of any size
apart. Else it is refused, and takes nothing, or the length of a field that is not there. What is
written field by field is read field by field.
-/
namespace GroupChat

open GroupChat.Part

inductive Read where
  | uint32
  | length
  | block (size : Nat)
  | field
  | lastField
  | mpi
  | ensureRemaining (needed : Nat)
  | ensureExact (expected : Nat)

namespace Read

abbrev Value : Read → Type
  | uint32 => UInt32
  | length => Nat
  | block size => Block size
  | field => Bytes
  | lastField => Bytes
  | mpi => Mpi
  | ensureRemaining _ => Unit
  | ensureExact _ => Unit

def reader : (read : Read) → FrameReader read.Value
  | uint32 => FrameReader.uint32
  | length => FrameReader.length
  | block size => FrameReader.block size
  | field => FrameReader.field
  | lastField => FrameReader.lastField
  | mpi => FrameReader.mpi
  | ensureRemaining needed => FrameReader.ensureRemaining needed
  | ensureExact expected => FrameReader.ensureExact expected

def isSized : Read → Bool
  | field | lastField | mpi => true
  | _ => false

def Allows : Read → Bytes → Prop
  | uint32, buffer => 4 ≤ buffer.length
  | length, buffer => Layout.lengthSize ≤ buffer.length
  | block size, buffer => size ≤ buffer.length
  | field, buffer | mpi, buffer =>
    ∃ size content, size < UInt32.size ∧ size ≤ content.length ∧
      buffer = (count size).bytes ++ content
  | lastField, buffer =>
    ∃ content : Bytes, content.length < UInt32.size ∧
      buffer = (count content.length).bytes ++ content
  | ensureRemaining needed, buffer => needed ≤ buffer.length
  | ensureExact expected, buffer => buffer.length = expected

/-- The bytes that a value is read from. A number of any size may have zero bytes before it. -/
inductive Spells : (read : Read) → read.Value → Bytes → Prop
  | uint32 (value : UInt32) : Spells .uint32 value (BigEndian.encode 4 value.toNat)
  | length (size : Nat) (fits : size < UInt32.size) :
    Spells .length size (BigEndian.encode 4 size)
  | block {size : Nat} (value : Block size) : Spells (.block size) value value.bytes
  | field (content : Bytes) (fits : content.length < UInt32.size) :
    Spells .field content (BigEndian.encode 4 content.length ++ content)
  | lastField (content : Bytes) (fits : content.length < UInt32.size) :
    Spells .lastField content (BigEndian.encode 4 content.length ++ content)
  | mpi (digits : Bytes) (fits : digits.length < UInt32.size) :
    Spells .mpi (.ofBytes digits) (BigEndian.encode 4 digits.length ++ digits)
  | ensureRemaining (needed : Nat) : Spells (.ensureRemaining needed) () []
  | ensureExact (expected : Nat) : Spells (.ensureExact expected) () []

/-- The write of a value that is spelled in one way only. -/
def writer? : (read : Read) → read.Value → Option Writer
  | uint32, value => some (Writer.putNat 4 value.toNat)
  | length, size => some (Writer.putLength size)
  | block _, value => some (Writer.put value.bytes)
  | field, content => some (Writer.putField content)
  | lastField, content => some (Writer.putField content)
  | _, _ => none

variable {read : Read} {value : read.Value} {buffer rest taken : Bytes}
  {error : ReadError FrameError}

theorem spells_of_ok (ok : read.reader buffer = .ok value rest) :
    ∃ taken, buffer = taken ++ rest ∧ read.Spells value taken := by
  cases read with
  | uint32 =>
    obtain ⟨digits, rfl, rfl⟩ := FrameReader.uint32_eq_ok.mp ok
    have spelled := Spells.uint32 (.ofNat digits.value)
    have same : BigEndian.encode 4 (UInt32.ofNat digits.value).toNat = digits.bytes :=
      congrArg Block.bytes (Block.ofValue_uint32 digits)
    rw [same] at spelled
    exact ⟨digits.bytes, rfl, spelled⟩
  | length =>
    obtain ⟨fits, rfl⟩ := FrameReader.length_eq_ok.mp ok
    exact ⟨_, rfl, .length _ fits⟩
  | block size =>
    obtain rfl := FrameReader.block_eq_ok.mp ok
    exact ⟨_, rfl, .block _⟩
  | field =>
    obtain ⟨fits, rfl⟩ := FrameReader.field_eq_ok.mp ok
    exact ⟨_, rfl, .field _ fits⟩
  | lastField =>
    obtain ⟨rfl, fits, rfl⟩ := FrameReader.lastField_eq_ok.mp ok
    exact ⟨_, (List.append_nil _).symm, .lastField _ fits⟩
  | mpi =>
    obtain ⟨digits, rfl, fits, rfl⟩ := FrameReader.mpi_eq_ok.mp ok
    exact ⟨_, rfl, .mpi _ fits⟩
  | ensureRemaining needed =>
    obtain ⟨-, rfl⟩ := ensure_eq_ok.mp ok
    exact ⟨[], rfl, .ensureRemaining needed⟩
  | ensureExact expected =>
    obtain ⟨-, rfl⟩ := FrameReader.ensureExact_eq_ok.mp ok
    exact ⟨[], rfl, .ensureExact expected⟩

theorem write_of_spells {writer : Writer} (spelled : read.Spells value taken)
    (written : read.writer? value = some writer) (prior : Bytes) :
    writer prior = .ok () (prior ++ taken) := by
  cases spelled with
  | uint32 value =>
    cases written
    rfl
  | length size fits =>
    cases written
    exact Writer.putLength_eq_ok.mpr ⟨fits, rfl⟩
  | block value =>
    cases written
    rfl
  | field content fits =>
    cases written
    exact Writer.putField_eq_ok.mpr ⟨fits, rfl⟩
  | lastField content fits =>
    cases written
    exact Writer.putField_eq_ok.mpr ⟨fits, rfl⟩
  | mpi => cases written
  | ensureRemaining => cases written
  | ensureExact => cases written

theorem drop_of_count {size : Nat} :
    ((count size).bytes ++ rest).drop Layout.lengthSize = rest :=
  List.drop_left' (BigEndian.length_encode _ size)

theorem rest_of_error (failed : read.reader buffer = .error error rest) :
    rest = if read.isSized ∧ Layout.lengthSize ≤ buffer.length then buffer.drop Layout.lengthSize
      else buffer := by
  have field {buffer rest : Bytes} (failed : FrameReader.field buffer = .error error rest) :
      rest = if Layout.lengthSize ≤ buffer.length then buffer.drop Layout.lengthSize
        else buffer := by
    obtain ⟨-, ⟨short, rfl⟩ | ⟨size, -, rfl, -⟩⟩ := FrameReader.field_eq_error.mp failed
    · rw [if_neg (Nat.not_le.mpr short)]
    · rw [if_pos (by simp [Part.bytes]), drop_of_count]
  cases read with
  | uint32 => exact (FrameReader.uint32_eq_error.mp failed).2.2
  | length => exact (FrameReader.length_eq_error.mp failed).2.2
  | block size => exact (FrameReader.block_eq_error.mp failed).2.2
  | field => simpa [isSized] using field failed
  | lastField =>
    obtain ⟨short, -, rfl⟩ | ⟨size, -, rfl, -, -⟩ := FrameReader.lastField_eq_error.mp failed
    · rw [if_neg fun present => Nat.not_le.mpr short present.2]
    · rw [if_pos ⟨rfl, by simp [Part.bytes]⟩, drop_of_count]
  | mpi => simpa [isSized] using field (FrameReader.mpi_eq_error.mp failed)
  | ensureRemaining needed => exact (ensure_eq_error.mp failed).2.2
  | ensureExact expected => exact (FrameReader.ensureExact_eq_error.mp failed).2.2

theorem field_allows_iff :
    (∃ content rest, FrameReader.field buffer = .ok content rest) ↔ field.Allows buffer := by
  simp only [FrameReader.field_eq_ok, Allows]
  constructor
  · rintro ⟨content, rest, fits, rfl⟩
    exact ⟨content.length, content ++ rest, fits, by simp, by simp [Part.bytes, sized]⟩
  · rintro ⟨size, content, fits, present, rfl⟩
    have taken : (content.take size).length = size := List.length_take_of_le present
    refine ⟨content.take size, content.drop size, ?_, ?_⟩
    · rwa [Part.Fits, taken]
    · simp [Part.bytes, sized, taken]

theorem ok_iff_allows :
    (∃ value rest, read.reader buffer = .ok value rest) ↔ read.Allows buffer := by
  cases read with
  | uint32 => exact FrameReader.exists_ok_of_eq_error FrameReader.uint32_eq_error
  | length => exact FrameReader.exists_ok_of_eq_error FrameReader.length_eq_error
  | block size => exact FrameReader.exists_ok_of_eq_error FrameReader.block_eq_error
  | field => exact field_allows_iff
  | lastField => simp [reader, FrameReader.lastField_eq_ok, Allows, Part.Fits, Part.bytes, sized]
  | mpi =>
    apply Iff.trans _ field_allows_iff
    rw [exists_eq_ok_iff, exists_eq_ok_iff]
    simp only [reader, ne_eq, FrameReader.mpi_eq_error]
  | ensureRemaining needed => simp [reader, Allows, FrameReader.ensureRemaining, ensure_eq_ok]
  | ensureExact expected => simp [reader, Allows, FrameReader.ensureExact_eq_ok]

theorem guarded_reader (read : Read) : Reader.IsGuarded FrameError.IsMisfit 0 0 read.reader := by
  cases read with
  | uint32 => exact FrameReader.guarded_uint32
  | length => exact FrameReader.guarded_length
  | block => exact FrameReader.guarded_block
  | field => exact FrameReader.guarded_field
  | lastField => exact FrameReader.guarded_lastField
  | mpi => exact FrameReader.guarded_mpi
  | ensureRemaining => exact (Reader.guarded_ensure .tooShort).left_zero
  | ensureExact => exact FrameReader.guarded_ensureExact.left_zero

theorem suffix_reader (read : Read) (buffer : Bytes) :
    finalState (read.reader buffer) <:+ buffer := by
  cases made : read.reader buffer with
  | ok value rest =>
    obtain ⟨taken, rfl, -⟩ := spells_of_ok made
    exact List.suffix_append _ _
  | error error rest =>
    rw [finalState, rest_of_error made]
    split
    · exact List.drop_suffix _ _
    · exact List.suffix_rfl

/-- A read that was made, with what came of it: a value or an error, and the bytes still unread. -/
structure Step where
  read : Read
  result : EStateM.Result (ReadError FrameError) Bytes read.Value

def run : List Read → Bytes → List Step
  | [], _ => []
  | read :: reads, buffer =>
    ⟨read, read.reader buffer⟩ :: run reads (finalState (read.reader buffer))

def unread : List Read → Bytes → Bytes
  | [], buffer => buffer
  | read :: reads, buffer => unread reads (finalState (read.reader buffer))

theorem run_append (front back : List Read) (buffer : Bytes) :
    run (front ++ back) buffer = run front buffer ++ run back (unread front buffer) := by
  induction front generalizing buffer with
  | nil => rfl
  | cons read front ih =>
    rw [List.cons_append, run, run, unread, ih, List.cons_append]

theorem unread_suffix (reads : List Read) (buffer : Bytes) : unread reads buffer <:+ buffer := by
  induction reads generalizing buffer with
  | nil => exact List.suffix_rfl
  | cons read reads ih => exact (ih _).trans (read.suffix_reader buffer)

end Read

namespace FrameReader

def fields : (missing : Nat) → FrameReader (List Bytes)
  | 0 => return []
  | missing + 1 => do
    let content ← field
    return content :: (← fields missing)

theorem fields_append {contents : List Bytes} (fits : ∀ part ∈ contents.map Part.field, part.Fits)
    (rest : Bytes) :
    fields contents.length (join (contents.map Part.field) ++ rest) = .ok contents rest := by
  induction contents with
  | nil => rfl
  | cons content contents ih =>
    obtain ⟨contentFits, othersFit⟩ := List.forall_mem_cons.mp fits
    have first : field ((Part.field content).bytes ++ (join (contents.map Part.field) ++ rest)) =
        .ok content (join (contents.map Part.field) ++ rest) :=
      field_eq_ok.mpr ⟨contentFits, rfl⟩
    rw [List.length_cons, fields, List.map_cons, join_cons, List.append_assoc, bind_of_ok first,
      bind_of_ok (ih othersFit)]
    rfl

end FrameReader

namespace Writer

theorem forM_putField (contents : List Bytes) :
    contents.forM putField = putAll (contents.map field) := by
  induction contents with
  | nil => rfl
  | cons content contents ih =>
    rw [List.forM, ih]
    rfl

end Writer

namespace Read

/-- A read in a row of reads is made on what those before it left, and goes as it would on these
bytes alone. It is ok exactly when what it asks for is there; it takes the bytes that spell its value
and writing it gives them back; a last field takes everything. Else it is refused and takes nothing,
but a read of a field takes its length when that is there. Fields that are written in turn are read
in turn, and what follows is left. -/
theorem reads_consistent :
    (∀ (front back : List Read) (read : Read) (buffer : Bytes),
      unread front buffer <:+ buffer ∧
      run (front ++ read :: back) buffer =
        run front buffer ++ ⟨read, read.reader (unread front buffer)⟩ ::
          run back (finalState (read.reader (unread front buffer)))) ∧
    (∀ (read : Read) (before : Bytes),
      finalState (read.reader before) <:+ before ∧
      ((∃ value rest, read.reader before = .ok value rest) ↔ read.Allows before) ∧
      (∀ value rest, read.reader before = .ok value rest →
        (read = .lastField → rest = []) ∧
        ∃ taken, before = taken ++ rest ∧ read.Spells value taken ∧
          ∀ writer, read.writer? value = some writer →
            ∀ prior, writer prior = .ok () (prior ++ taken)) ∧
      ∀ error rest, read.reader before = .error error rest →
        (∃ reason, error = .refused reason ∧ reason.IsMisfit) ∧
        rest = if read.isSized ∧ Layout.lengthSize ≤ before.length
          then before.drop Layout.lengthSize else before) ∧
    ∀ (contents : List Bytes) (prior : Bytes),
      ((∃ final, contents.forM Writer.putField prior = .ok () final) ↔
        ∀ content ∈ contents, content.length < UInt32.size) ∧
      ∀ final, contents.forM Writer.putField prior = .ok () final →
        ∃ written, final = prior ++ written ∧
          ∀ rest, FrameReader.fields contents.length (written ++ rest) = .ok contents rest := by
  refine ⟨fun front back read buffer => ?_, fun read before => ?_, fun contents prior => ?_⟩
  · exact ⟨unread_suffix front buffer, run_append front (read :: back) buffer⟩
  · refine ⟨suffix_reader read before, ok_iff_allows, fun value rest ok => ?_,
      fun error rest failed => ⟨(guarded_reader read).among_of_error failed, rest_of_error failed⟩⟩
    obtain ⟨taken, whole, spelled⟩ := spells_of_ok ok
    refine ⟨fun last => ?_, taken, whole, spelled, fun writer => write_of_spells spelled⟩
    subst last
    exact (FrameReader.lastField_eq_ok.mp ok).1
  · have fitting : (∀ part ∈ contents.map Part.field, part.Fits) ↔
        ∀ content ∈ contents, content.length < UInt32.size := List.forall_mem_map
    rw [Writer.forM_putField, ← fitting]
    refine ⟨?_, fun final written => ?_⟩
    · simp only [putAll_eq_ok, exists_and_left, exists_eq, and_true]
    · obtain ⟨fits, rfl⟩ := putAll_eq_ok.mp written
      exact ⟨_, rfl, FrameReader.fields_append fits⟩

end Read

end GroupChat

import GroupChat.Proofs.StateSteps
import GroupChat.Proofs.Wire.PayloadShape

/-!
Writing a payload puts its parts in turn at the end of the buffer. It is ok when they fit; else it
stops at the first one that does not.
-/
namespace GroupChat

variable {buffer final : Bytes} {result : Unit} {error : FrameError}

namespace Writer

open GroupChat.Part

theorem put_eq_ok {bytes : Bytes} :
    Writer.put bytes buffer = .ok result final ↔ final = buffer ++ bytes := by
  simp [Writer.put, eq_comm]

theorem putLength_eq_ok {length : Nat} :
    putLength length buffer = .ok result final ↔
      (count length).Fits ∧ final = buffer ++ (count length).bytes := by
  by_cases short : length < UInt32.size
  · rw [putLength_of_lt short, putNat, put_eq_ok]
    exact (and_iff_right short).symm
  · rw [putLength_of_le (Nat.not_lt.mp short)]
    exact iff_of_false throw_ne_ok fun fits => short fits.1

theorem putField_eq_ok {content : Bytes} :
    putField content buffer = .ok result final ↔
      (field content).Fits ∧ final = buffer ++ (field content).bytes := by
  simp only [putField, bind_eq_ok, putLength_eq_ok, put_eq_ok]
  refine ⟨fun written => ?_, fun spelled => ?_⟩
  · obtain ⟨_, _, ⟨fits, rfl⟩, rfl⟩ := written
    exact ⟨fits, List.append_assoc _ _ _⟩
  · obtain ⟨fits, rfl⟩ := spelled
    exact ⟨(), _, ⟨fits, rfl⟩, (List.append_assoc _ _ _).symm⟩

theorem ofExcept_eq_ok {α : Type} {outcome : Except FrameError α} {value : α} :
    ofExcept outcome buffer = .ok value final ↔ outcome = .ok value ∧ buffer = final := by
  cases outcome with
  | ok => simp [ofExcept, pure_eq_ok]
  | error => simp [ofExcept, throw_ne_ok]

theorem written_eq_ok {writer : Writer} {bytes : Bytes} :
    writer.written = .ok bytes ↔ writer [] = .ok () bytes := by
  unfold written
  cases writer [] <;> simp

theorem put_ne_error {bytes : Bytes} : put bytes buffer ≠ .error error final :=
  fun failed => nomatch failed

theorem putLength_eq_error {length : Nat} :
    putLength length buffer = .error error final ↔
      ¬ (count length).Fits ∧ error = .fieldTooLong ∧ final = buffer := by
  by_cases short : length < UInt32.size
  · rw [putLength_of_lt short, putNat]
    exact iff_of_false put_ne_error fun failed => failed.1 short
  · rw [putLength_of_le (Nat.not_lt.mp short), throw_eq_error]
    exact ⟨fun failed => ⟨short, failed⟩, And.right⟩

theorem putField_eq_error {content : Bytes} :
    putField content buffer = .error error final ↔
      ¬ (field content).Fits ∧ error = .fieldTooLong ∧ final = buffer := by
  simp only [putField, bind_eq_error, putLength_eq_error, put_ne_error, and_false, exists_false,
    or_false]
  rfl

theorem ofExcept_eq_error {α : Type} {outcome : Except FrameError α} :
    ofExcept outcome buffer = .error error final ↔ outcome = .error error ∧ final = buffer := by
  cases outcome with
  | ok => simp [ofExcept, pure_ne_error]
  | error => simp [ofExcept, throw_eq_error, eq_comm]

end Writer

namespace Part

open Writer

def putAll : List Part → Writer
  | [] => return
  | part :: parts => do
    part.put
    putAll parts

theorem put_eq_ok {part : Part} :
    part.put buffer = .ok result final ↔ part.Fits ∧ final = buffer ++ part.bytes := by
  cases part with
  | plain bytes => exact Writer.put_eq_ok.trans (and_iff_right trivial).symm
  | count size => exact putLength_eq_ok
  | field content => exact putField_eq_ok
  | number digits => exact putField_eq_ok

theorem putAll_eq_ok {parts : List Part} :
    putAll parts buffer = .ok result final ↔
      (∀ part ∈ parts, part.Fits) ∧ final = buffer ++ join parts := by
  induction parts generalizing buffer with
  | nil => simp [putAll, pure_eq_ok, eq_comm]
  | cons part parts ih =>
    simp only [putAll, bind_eq_ok, put_eq_ok, ih, List.forall_mem_cons, join_cons]
    refine ⟨fun written => ?_, fun spelled => ?_⟩
    · obtain ⟨_, _, ⟨fits, rfl⟩, othersFit, rfl⟩ := written
      exact ⟨⟨fits, othersFit⟩, List.append_assoc _ _ _⟩
    · obtain ⟨⟨fits, othersFit⟩, rfl⟩ := spelled
      exact ⟨(), _, ⟨fits, rfl⟩, othersFit, (List.append_assoc _ _ _).symm⟩

theorem put_eq_error {part : Part} :
    part.put buffer = .error error final ↔
      ¬ part.Fits ∧ error = .fieldTooLong ∧ final = buffer := by
  cases part with
  | plain bytes => exact iff_of_false put_ne_error fun failed => failed.1 trivial
  | count size => exact putLength_eq_error
  | field content => exact putField_eq_error
  | number digits => exact putField_eq_error

/-- Writing stops at the first part that does not fit. The parts before it have been written. -/
theorem putAll_eq_error {parts : List Part} :
    putAll parts buffer = .error error final ↔
      error = .fieldTooLong ∧ ∃ front part back, parts = front ++ part :: back ∧
        (∀ part ∈ front, part.Fits) ∧ ¬ part.Fits ∧ final = buffer ++ join front := by
  induction parts generalizing buffer with
  | nil => simp [putAll, pure_ne_error]
  | cons part parts ih =>
    simp only [putAll, bind_eq_error, put_eq_error, put_eq_ok, ih]
    refine ⟨fun failed => ?_, fun stopped => ?_⟩
    · obtain ⟨long, rfl, rfl⟩ | ⟨_, _, ⟨fits, rfl⟩, rfl, front, stop, back, rfl, frontFits, long,
        rfl⟩ := failed
      · exact ⟨rfl, [], part, parts, rfl, by simp, long, by simp⟩
      · refine ⟨rfl, part :: front, stop, back, rfl, ?_, long, by simp⟩
        exact List.forall_mem_cons.mpr ⟨fits, frontFits⟩
    · obtain ⟨rfl, front, stop, back, split, frontFits, long, rfl⟩ := stopped
      cases front with
      | nil =>
        obtain ⟨rfl, rfl⟩ := List.cons.inj split
        exact .inl ⟨long, rfl, by simp⟩
      | cons first front =>
        obtain ⟨rfl, rfl⟩ := List.cons.inj split
        obtain ⟨fits, frontFits⟩ := List.forall_mem_cons.mp frontFits
        refine .inr ⟨(), _, ⟨fits, rfl⟩, rfl, front, stop, back, rfl, frontFits, long, ?_⟩
        rw [join_cons, List.append_assoc]

end Part

namespace Payload

open GroupChat.Part Writer

theorem writeKeys_eq (keys : List Mpi) :
    writeKeys keys = putAll (keys.map fun key => number key.bytes) := by
  induction keys with
  | nil => rfl
  | cons key keys ih => rw [writeKeys, ih]; rfl

theorem write_eq (payload : Payload) : payload.write = putAll payload.parts := by
  cases payload with
  | gkaUpflow recipient keys => rw [write, writeKeyList, writeKeys_eq]; rfl
  | gkaDownflow keys => rw [write, writeKeyList, writeKeys_eq]; rfl
  | _ => simp [write, parts, putAll, Part.put, putMpi, putNat, Block.ofValue]

def Fits : Payload → Prop
  | dakeHandshake ephemeralPublic longTermPublic =>
    ephemeralPublic.bytes.length < UInt32.size ∧ longTermPublic.bytes.length < UInt32.size
  | gkaUpflow _ interKeys | gkaDownflow interKeys =>
    interKeys.length < UInt32.size ∧ ∀ key ∈ interKeys, key.bytes.length < UInt32.size
  | dakeKey _ _ content | data _ content | shutdownKeyRelease content =>
    content.length < UInt32.size
  | offer .. | dakeConfirm .. | attest .. | shutdownShutdown .. | shutdownDigest ..
  | shutdownEnd => True

theorem fits_iff (payload : Payload) : payload.Fits ↔ ∀ part ∈ payload.parts, part.Fits := by
  cases payload <;> simp [Fits, parts, Part.Fits]

end Payload

end GroupChat

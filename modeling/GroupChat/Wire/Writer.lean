import GroupChat.FrameError
import GroupChat.Layout
import GroupChat.Mpi

/-!
Writing to the end of a buffer. What a writer that fails had written by then stays in the buffer.
-/
namespace GroupChat

abbrev WriterM := EStateM FrameError Bytes

abbrev Writer := WriterM Unit

namespace Writer

def ofExcept {α : Type} : Except FrameError α → WriterM α
  | .ok value => pure value
  | .error error => throw error

def put (bytes : Bytes) : Writer := fun buffer => .ok () (buffer ++ bytes)

def putNat (width value : Nat) : Writer := put (BigEndian.encode width value)

def putLength (length : Nat) : Writer :=
  if length < UInt32.size then putNat Layout.lengthSize length else throw .fieldTooLong

def putField (field : Bytes) : Writer := do
  putLength field.length
  put field

def putMpi (number : Mpi) : Writer := putField number.bytes

def written (writer : Writer) : Except FrameError Bytes :=
  match writer [] with
  | .ok _ bytes => .ok bytes
  | .error error _ => .error error

theorem putLength_of_lt {length : Nat} (short : length < UInt32.size) :
    putLength length = putNat Layout.lengthSize length := if_pos short

theorem putLength_of_le {length : Nat} (long : UInt32.size ≤ length) :
    putLength length = throw .fieldTooLong := if_neg (Nat.not_lt.mpr long)

end Writer

end GroupChat

import GroupChat.Wire.Reader
import GroupChat.FrameError
import GroupChat.Layout
import GroupChat.Mpi

/-!
The fields that frames are made of, each read after a check that it is there. A field of variable
size comes after its length; the length stays taken when the field itself is too short.
-/
namespace GroupChat

abbrev FrameReader := Reader FrameError

namespace FrameReader

def ensureRemaining (needed : Nat) : FrameReader Unit := Reader.ensure needed .tooShort

/-- A payload of fixed shape spans the whole buffer. -/
def ensureExact (expected : Nat) : FrameReader Unit := fun buffer =>
  if buffer.length = expected then .ok () buffer
  else .error (.refused (.wrongLength expected buffer.length)) buffer

def uint32 : FrameReader UInt32 := do
  ensureRemaining 4
  return UInt32.ofNat (← Reader.takeNat 4)

def length : FrameReader Nat := do
  ensureRemaining Layout.lengthSize
  Reader.takeNat Layout.lengthSize

def block (size : Nat) : FrameReader (Block size) := do
  ensureRemaining size
  Reader.takeBlock size

def field : FrameReader Bytes := do
  let size ← length
  ensureRemaining size
  Reader.take size

def lastField : FrameReader Bytes := do
  let size ← length
  ensureExact size
  Reader.take size

def mpi : FrameReader Mpi := return Mpi.ofBytes (← field)

def lastMpi : FrameReader Mpi := return Mpi.ofBytes (← lastField)

end FrameReader

end GroupChat

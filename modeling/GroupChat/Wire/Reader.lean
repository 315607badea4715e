import GroupChat.Bytes.BigEndian

/-!
Reading bytes off the front of a buffer. A read that fails leaves the buffer as it was when it
failed, so what had been taken by then stays taken.
-/
namespace GroupChat

/-- A read is refused for a reason of the format, or it overruns: it takes bytes that are not there
without having asked for them first. -/
inductive ReadError (ε : Type) where
  | refused (reason : ε)
  | overrun
deriving DecidableEq

abbrev Reader (ε : Type) := EStateM (ReadError ε) Bytes

namespace Reader

variable {ε α β : Type}

def refuse (reason : ε) : Reader ε α := fun buffer => .error (.refused reason) buffer

/-- Takes a block without asking whether it is there. -/
def takeBlock (size : Nat) : Reader ε (Block size) := fun buffer =>
  if present : size ≤ buffer.length then
    .ok ⟨buffer.take size, List.length_take_of_le present⟩ (buffer.drop size)
  else
    .error .overrun buffer

def take (size : Nat) : Reader ε Bytes := Block.bytes <$> takeBlock size

def takeNat (width : Nat) : Reader ε Nat := BigEndian.decode <$> take width

def eval (reader : Reader ε α) (buffer : Bytes) : Except (ReadError ε) α :=
  match reader buffer with
  | .ok value _ => .ok value
  | .error error _ => .error error

def ensure (needed : Nat) (reason : ε) : Reader ε Unit := fun buffer =>
  if buffer.length < needed then .error (.refused reason) buffer else .ok () buffer

def ensureEnd (trailing : Nat → ε) : Reader ε Unit := fun buffer =>
  if buffer.isEmpty then .ok () buffer else .error (.refused (trailing buffer.length)) buffer

def toEnd (reader : Reader ε α) (trailing : Nat → ε) : Reader ε α := do
  let value ← reader
  ensureEnd trailing
  return value

theorem takeBlock_append (block : Block size) (rest : Bytes) :
    takeBlock (ε := ε) size (block.bytes ++ rest) = .ok block rest := by
  obtain ⟨bytes, rfl⟩ := block
  simp [takeBlock]

end Reader

end GroupChat

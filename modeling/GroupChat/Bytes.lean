/-!
Byte strings, and byte strings whose size is part of their type. Byte strings are ordered
lexicographically, which is the order `compare` gives on lists.
-/
namespace GroupChat

abbrev Bytes := List UInt8

/-- A byte string of exactly `size` bytes. -/
@[ext] structure Block (size : Nat) where
  bytes : Bytes
  size_eq : bytes.length = size
deriving DecidableEq

namespace Block

variable {size : Nat}

def ofBytes? (size : Nat) (bytes : Bytes) : Option (Block size) :=
  if h : bytes.length = size then some ⟨bytes, h⟩ else none

def zero (size : Nat) : Block size := ⟨List.replicate size 0, List.length_replicate⟩

theorem ofBytes?_eq_some {bytes : Bytes} {block : Block size} :
    ofBytes? size bytes = some block ↔ block.bytes = bytes := by
  obtain ⟨inner, rfl⟩ := block
  unfold ofBytes?
  split
  · simp [eq_comm]
  · simp only [reduceCtorEq, false_iff]
    intro equal
    subst equal
    contradiction

@[simp] theorem ofBytes?_bytes (block : Block size) : ofBytes? size block.bytes = some block :=
  ofBytes?_eq_some.mpr rfl

end Block

def utf8 (text : String) : Bytes := text.toUTF8.data.toList

theorem utf8_injective {a b : String} (equal : utf8 a = utf8 b) : a = b := by
  apply String.toByteArray_inj.mp
  exact ByteArray.ext (Array.toList_inj.mp equal)

end GroupChat

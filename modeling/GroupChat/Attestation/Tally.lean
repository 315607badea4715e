/-!
Which participants have had their attestation confirmed, by position, and how many they are.
-/
namespace GroupChat

inductive Stage where
  | awaiting
  | finished
deriving DecidableEq

structure Tally where
  marks : List Bool
  count : Nat
  stage : Stage
deriving DecidableEq

namespace Tally

def fresh (size : Nat) : Tally := ⟨List.replicate size false, 0, .awaiting⟩

def size (tally : Tally) : Nat := tally.marks.length

def isMarked (tally : Tally) (position : Nat) : Bool := tally.marks.getD position false

def isComplete (tally : Tally) : Bool := tally.count = tally.size

def mark (tally : Tally) (position : Nat) (inRange : position < tally.size) : Tally :=
  if tally.marks[position] then tally
  else { tally with marks := tally.marks.set position true, count := tally.count + 1 }

def unmark (tally : Tally) (position : Nat) (inRange : position < tally.size) : Tally :=
  if tally.marks[position] then
    { tally with marks := tally.marks.set position false, count := tally.count - 1 }
  else tally

@[simp] theorem size_fresh (size : Nat) : (fresh size).size = size := by
  simp [fresh, Tally.size]

@[simp] theorem size_mark (tally : Tally) (position : Nat) (inRange : position < tally.size) :
    (tally.mark position inRange).size = tally.size := by
  unfold mark
  split <;> simp [size]

@[simp] theorem size_unmark (tally : Tally) (position : Nat) (inRange : position < tally.size) :
    (tally.unmark position inRange).size = tally.size := by
  unfold unmark
  split <;> simp [size]

/-- Clears the mark of a position, and sets it again if its attestation agrees with ours. -/
def judge (tally : Tally) (position : Nat) (inRange : position < tally.size) (agrees : Bool) :
    Tally :=
  let cleared := tally.unmark position inRange
  if agrees then cleared.mark position (by simpa [cleared] using inRange) else cleared

@[simp] theorem size_judge (tally : Tally) (position : Nat) (inRange : position < tally.size)
    (agrees : Bool) : (tally.judge position inRange agrees).size = tally.size := by
  simp only [judge]
  split <;> simp

end Tally

end GroupChat

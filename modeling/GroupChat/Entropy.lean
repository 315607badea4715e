import GroupChat.Signing.Key

/-!
A source of random bytes, stretched from a seed: each draw is made of digests of the seed and a
number that no other digest is made with. Keys and shares of session ids are drawn from it.
-/
namespace GroupChat

structure Entropy where
  seed : Bytes
  counter : Nat

namespace Entropy

def ofSeed (seed : Bytes) : Entropy := ⟨seed, 0⟩

def output (entropy : Entropy) (index : Nat) : Digest :=
  sha512Concat [BigEndian.encode 8 (entropy.counter + index), entropy.seed]

def outputs (entropy : Entropy) (count : Nat) : Bytes :=
  (List.range count).flatMap fun index => (entropy.output index).bytes

theorem length_outputs (entropy : Entropy) (count : Nat) :
    (entropy.outputs count).length = 64 * count := by
  induction count with
  | zero => rfl
  | succ count ih =>
    have last : (entropy.output count).bytes.length = 64 := (entropy.output count).size_eq
    simp only [outputs, List.range_succ, List.flatMap_append, List.length_append] at *
    simp only [ih, List.flatMap_singleton, last]
    omega

def draw (entropy : Entropy) (size : Nat) : Block size × Entropy :=
  let count := size / 64 + 1
  (⟨(entropy.outputs count).take size, by
    have enough := entropy.length_outputs count
    rw [List.length_take]
    omega⟩, { entropy with counter := entropy.counter + count })

def drawSidContribution (entropy : Entropy) : Block Layout.sidContributionSize × Entropy :=
  entropy.draw _

def drawKey (scheme : SignatureScheme) (entropy : Entropy) : SigningKey × Entropy :=
  let (secret, entropy) := entropy.draw _
  (.ofSecret scheme secret, entropy)

end Entropy

end GroupChat

import GroupChat.Bytes.BigEndian
import GroupChat.Layout

/-!
The curve edwards25519, `-x² + y² = 1 + d x² y²` over the field of `2^255 - 19` elements. Field
elements are natural numbers below that prime. A point is written in 32 bytes: the `y` coordinate
with the least byte first, and in the top bit whether `x` is odd.
-/
namespace GroupChat.Ed25519

/-- The weight of the bit that a point is written with the sign of `x` in. -/
def signWeight : Nat := 1 <<< 255

def fieldPrime : Nat := signWeight - 19

def groupOrder : Nat := 1 <<< 252 + 27742317777372353535851937790883648493

def curveD : Nat := 37095705934669439343138083508754565189542113879843219016388785533085940283555

def sqrtMinusOne : Nat :=
  19681161376707505956807079304988542015446066515923890162744021073123829784752

def littleEndian (bytes : Bytes) : Nat := BigEndian.decode bytes.reverse

def toLittleEndian (value : Nat) : Block 32 where
  bytes := (BigEndian.encode 32 value).reverse
  size_eq := by simp

def bits : (count : Nat) → Nat → List Bool
  | 0, _ => []
  | count + 1, value => value.testBit count :: bits count value

namespace Residue

def mul (a b : Nat) : Nat := a * b % fieldPrime

def add (a b : Nat) : Nat := (a + b) % fieldPrime

def sub (a b : Nat) : Nat := (a + (fieldPrime - b)) % fieldPrime

def neg (a : Nat) : Nat := sub 0 a

def pow (base exponent : Nat) : Nat :=
  (bits 255 exponent).foldl
    (fun power bit => if bit then mul (mul power power) base else mul power power) 1

def inv (a : Nat) : Nat := pow a (fieldPrime - 2)

def sqrtRatio? (a b : Nat) : Option Nat :=
  let cube := mul (mul b b) b
  let seventh := mul (mul cube cube) b
  let root := mul (mul a cube) (pow (mul a seventh) ((fieldPrime - 5) / 8))
  let square := mul b (mul root root)
  if square = a then some root
  else if square = neg a then some (mul root sqrtMinusOne)
  else none

end Residue

/-- A point `(x / z, y / z)`, with `t` such that `x y = z t`. -/
structure Point where
  x : Nat
  y : Nat
  z : Nat
  t : Nat

namespace Point

open Residue

def identity : Point := ⟨0, 1, 1, 0⟩

def base : Point :=
  let x := 15112221349535400772501151409588531511454012693041857206046113283949847762202
  let y := 46316835694926478169428394003475163141307993866256225615783033603165251855960
  ⟨x, y, 1, mul x y⟩

def neg (point : Point) : Point := ⟨Residue.neg point.x, point.y, point.z, Residue.neg point.t⟩

def add (p q : Point) : Point :=
  let a := mul (sub p.y p.x) (sub q.y q.x)
  let b := mul (Residue.add p.y p.x) (Residue.add q.y q.x)
  let c := mul (mul p.t q.t) (Residue.add curveD curveD)
  let d := mul p.z (Residue.add q.z q.z)
  let e := sub b a
  let f := sub d c
  let g := Residue.add d c
  let h := Residue.add b a
  ⟨mul e f, mul g h, mul f g, mul e h⟩

def double (point : Point) : Point := add point point

def scale (point : Point) (factor : Nat) : Point :=
  (bits 256 factor).foldl
    (fun multiple bit => if bit then add (double multiple) point else double multiple) identity

def hasSmallOrder (point : Point) : Bool :=
  let multiple := double (double (double point))
  multiple.x == 0 && multiple.y == multiple.z

def encode (point : Point) : Block 32 :=
  let inverse := inv point.z
  let x := mul point.x inverse
  let y := mul point.y inverse
  toLittleEndian (y + x % 2 * signWeight)

/-- Reads a point. A `y` that is not reduced is taken for what it is modulo the prime, and the sign
of an `x` that is zero does not matter. -/
def decode? (bytes : Block 32) : Option Point :=
  let value := littleEndian bytes.bytes
  let y := value % signWeight % fieldPrime
  let odd := value / signWeight
  let square := mul y y
  (sqrtRatio? (sub square 1) (Residue.add (mul curveD square) 1)).map fun root =>
    let x := if root % 2 = odd then root else Residue.neg root
    ⟨x, y, 1, mul x y⟩

end Point

end GroupChat.Ed25519

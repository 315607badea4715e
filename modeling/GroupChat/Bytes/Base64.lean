import GroupChat.Bytes

/-!
Base 64 with padding. Three bytes make four digits; one or two bytes at the end make two or three
digits and are filled up with `=`. Reading is strict: only what writing gives is read.
-/
namespace GroupChat.Base64

def alphabet : List Char :=
  "ABCDEFGHIJKLMNOPQRSTUVWXYZabcdefghijklmnopqrstuvwxyz0123456789+/".toList

def digit (value : Nat) : Char := alphabet.getD value '='

def digitValue? (c : Char) : Option Nat := alphabet.idxOf? c

def encode : Bytes → List Char
  | [] => []
  | [a] =>
    let group := a.toNat * 16
    [digit (group / 64), digit (group % 64), '=', '=']
  | [a, b] =>
    let group := (a.toNat * 256 + b.toNat) * 4
    [digit (group / 4096), digit (group / 64 % 64), digit (group % 64), '=']
  | a :: b :: c :: rest =>
    let group := (a.toNat * 256 + b.toNat) * 256 + c.toNat
    digit (group / 262144) :: digit (group / 4096 % 64) :: digit (group / 64 % 64) ::
      digit (group % 64) :: encode rest

/-- The bits that two or three digits have beyond one or two bytes must be zero. -/
def decode? : List Char → Option Bytes
  | [] => some []
  | [w, x, '=', '='] => do
    let group := (← digitValue? w) * 64 + (← digitValue? x)
    if group % 16 = 0 then some [UInt8.ofNat (group / 16)] else none
  | [w, x, y, '='] => do
    let group := ((← digitValue? w) * 64 + (← digitValue? x)) * 64 + (← digitValue? y)
    if group % 4 = 0 then some [UInt8.ofNat (group / 1024), UInt8.ofNat (group / 4)] else none
  | w :: x :: y :: z :: rest => do
    let group := (((← digitValue? w) * 64 + (← digitValue? x)) * 64 + (← digitValue? y)) * 64 +
      (← digitValue? z)
    let rest ← decode? rest
    return UInt8.ofNat (group / 65536) :: UInt8.ofNat (group / 256) :: UInt8.ofNat group :: rest
  | _ => none

end GroupChat.Base64

import GroupChat.Bytes

/-!
Byte strings as lower-case hexadecimal text, two digits a byte. Reading takes capital digits too.
-/
namespace GroupChat.Hex

def digit (value : UInt8) : Char :=
  Char.ofNat (if value < 10 then 48 + value.toNat else 87 + value.toNat)

def encode (bytes : Bytes) : String :=
  String.ofList (bytes.flatMap fun byte => [digit (byte / 16), digit (byte % 16)])

def digitValue? (c : Char) : Option UInt8 :=
  if '0' ≤ c ∧ c ≤ '9' then some (UInt8.ofNat (c.toNat - 48))
  else if 'a' ≤ c ∧ c ≤ 'f' then some (UInt8.ofNat (c.toNat - 87))
  else if 'A' ≤ c ∧ c ≤ 'F' then some (UInt8.ofNat (c.toNat - 55))
  else none

def decodeChars? : List Char → Option Bytes
  | [] => some []
  | high :: low :: rest => do
    let high ← digitValue? high
    let low ← digitValue? low
    let rest ← decodeChars? rest
    return (high * 16 + low) :: rest
  | [_] => none

def decode? (text : String) : Option Bytes := decodeChars? text.toList

end GroupChat.Hex

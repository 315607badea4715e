import GroupChat.Bytes.Base64
import GroupChat.Message

/-!
The form in which frames travel over a transport of plain text: base 64 between an opening mark and
a final period.
-/
namespace GroupChat.Armor

def mark : String := "?OTR"
def fragmentMark : String := "?OTR|"
def opening : String := "?OTR:"
def closing : String := "."

def isMarked (text : String) : Bool := mark.toList.isPrefixOf text.toList

/-- A fragment is one part of a text that was too long for the transport. -/
def isFragment (text : String) : Bool := fragmentMark.toList.isPrefixOf text.toList

def encode (frame : Bytes) : String :=
  opening ++ String.ofList (Base64.encode frame) ++ closing

def body? (text : String) : Option (List Char) :=
  let chars := text.toList
  if opening.toList.isPrefixOf chars then
    let rest := chars.drop opening.length
    if closing.toList.isSuffixOf rest then
      some (rest.take (rest.length - closing.length))
    else none
  else none

def decode (text : String) : Except FrameError Bytes :=
  match (body? text).bind Base64.decode? with
  | some frame => .ok frame
  | none => .error .notArmored

def receive (text sender : String) : Except (ReadError FrameError) Message := do
  let frame ← (decode text).mapError .refused
  Message.decode frame sender

end GroupChat.Armor

import GroupChat.SlotList.Access
import GroupChat.Signing.Key

/-!
The participants of a chat, in the order of their names. The position of a participant in that order
is how the rest of the protocol refers to it. Names are ordered by their bytes in UTF-8, and
participants of one name by when they were added.
-/
namespace GroupChat

structure Participant where
  name : String
  key : Option SigningKey

namespace Participant

instance : BEq Participant where
  beq a b := a.name == b.name && a.key == b.key

def compareNames (a b : Participant) : Ordering := compare (utf8 a.name) (utf8 b.name)

def print (participant : Participant) : String :=
  let key := if participant.key.isSome then "signing key" else "no signing key"
  s!"{participant.name} ({key})\n"

def collation : Collation Participant where
  compare := compareNames
  print := print

end Participant

structure Roster where
  participants : SlotList Participant.collation

namespace Roster

instance : BEq Roster where
  beq a b := a.participants == b.participants

def empty : Roster := ⟨.empty⟩

/-- Adds a participant behind those whose names are not greater, and says at which position. -/
def insert (roster : Roster) (participant : Participant) : Option Nat × Roster :=
  let (handle, participants) := roster.participants.insert participant
  (participants.positionOf? handle, ⟨participants⟩)

def positionOf? (roster : Roster) (name : String) : Option Nat :=
  roster.participants.findIdx? fun participant => participant.name = name

def erase (roster : Roster) (name : String) : Option Participant × Roster :=
  match (roster.positionOf? name).bind roster.participants.handleAt? with
  | some handle =>
    let (participant, participants) := roster.participants.erase handle
    (participant, ⟨participants⟩)
  | none => (none, roster)

def get? (roster : Roster) (position : Nat) : Option Participant :=
  roster.participants.get? position

def keyAt? (roster : Roster) (position : Nat) : Option SigningKey :=
  (roster.get? position).bind Participant.key

/-- Changes a participant where it stands, even if its name no longer fits there. -/
def modify? (roster : Roster) (position : Nat) (change : Participant → Participant) :
    Option Roster :=
  (roster.participants.modifyAt? position change).map Roster.mk

def size (roster : Roster) : Nat := roster.participants.size

def isEmpty (roster : Roster) : Bool := roster.participants.isEmpty

def toList (roster : Roster) : List Participant := roster.participants.elements

def copy (roster : Roster) : Roster := ⟨roster.participants.copy⟩

def printAll (roster : Roster) : String := roster.participants.printAll

end Roster

end GroupChat

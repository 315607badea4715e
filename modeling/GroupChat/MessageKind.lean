/-!
The kinds of message and their tags on the wire. Tag 0 stands for plain text, which has no payload.
-/
namespace GroupChat

inductive MessageKind where
  | notOtr
  | offer
  | dakeHandshake
  | dakeConfirm
  | dakeKey
  | gkaUpflow
  | gkaDownflow
  | attest
  | data
  | shutdownShutdown
  | shutdownDigest
  | shutdownEnd
  | shutdownKeyRelease
deriving DecidableEq

namespace MessageKind

def tag : MessageKind → UInt8
  | notOtr => 0
  | offer => 1
  | dakeHandshake => 2
  | dakeConfirm => 3
  | dakeKey => 4
  | gkaUpflow => 5
  | gkaDownflow => 6
  | attest => 7
  | data => 8
  | shutdownShutdown => 9
  | shutdownDigest => 10
  | shutdownEnd => 11
  | shutdownKeyRelease => 12

def all : List MessageKind :=
  [notOtr, offer, dakeHandshake, dakeConfirm, dakeKey, gkaUpflow, gkaDownflow, attest, data,
    shutdownShutdown, shutdownDigest, shutdownEnd, shutdownKeyRelease]

def ofTag? (tag : UInt8) : Option MessageKind := all.find? (·.tag = tag)

theorem ofTag?_eq_some {tag : UInt8} {kind : MessageKind} :
    ofTag? tag = some kind ↔ kind.tag = tag := by
  constructor
  · intro found
    simpa using List.find?_some found
  · intro equal
    subst equal
    cases kind <;> rfl

theorem ofTag?_eq_none {tag : UInt8} : ofTag? tag = none ↔ 12 < tag := by
  simp [ofTag?, all, MessageKind.tag, ← UInt8.toNat_inj, UInt8.lt_iff_toNat_lt]
  omega

def name : MessageKind → String
  | notOtr => "NotOtr"
  | offer => "Offer"
  | dakeHandshake => "DakeHandshake"
  | dakeConfirm => "DakeConfirm"
  | dakeKey => "DakeKey"
  | gkaUpflow => "GkaUpflow"
  | gkaDownflow => "GkaDownflow"
  | attest => "Attest"
  | data => "Data"
  | shutdownShutdown => "ShutdownShutdown"
  | shutdownDigest => "ShutdownDigest"
  | shutdownEnd => "ShutdownEnd"
  | shutdownKeyRelease => "ShutdownKeyRelease"

def inSession : MessageKind → Bool
  | notOtr | offer => false
  | _ => true

/-- Messages before the group has a key, and the one that gives a key away, are not signed. -/
def isSigned : MessageKind → Bool
  | notOtr | offer | dakeHandshake | dakeConfirm | dakeKey | shutdownKeyRelease => false
  | _ => true

end MessageKind

end GroupChat

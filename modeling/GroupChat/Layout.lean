/-!
The fixed numbers of the protocol: sizes of fields in bytes, offsets in a frame, and the version and
chat instance that a chat uses when nothing else is set.
-/
namespace GroupChat.Layout

abbrev protocolVersion : UInt16 := 4
/-- The instance tag that stands for the chat itself, not for one client in it. -/
abbrev chatInstanceTag : UInt32 := 0x100

abbrev headerSize : Nat := 11
abbrev tagOffset : Nat := 2
/-- Every field of variable size is written after its size in this many bytes. -/
abbrev lengthSize : Nat := 4

abbrev sessionIdSize : Nat := 32
abbrev sidContributionSize : Nat := 32
abbrev tableHashSize : Nat := 64
abbrev macSize : Nat := 64
abbrev participantsHashSize : Nat := 64

abbrev digestSize : Nat := 64
abbrev publicKeySize : Nat := 32
abbrev secretKeySize : Nat := 32
abbrev signatureComponentSize : Nat := 32

end GroupChat.Layout

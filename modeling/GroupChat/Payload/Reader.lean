import GroupChat.Payload
import GroupChat.Wire.Fields

/-!
Reading payloads. A payload is the last part of its frame, so each shape is checked against all that
is left in the buffer: shapes of fixed size at once, the others at their last field.
-/
namespace GroupChat.Payload

open FrameReader

/-- Reads `missing` keys after the `found` ones that came before. The keys end early when not even
the length of another one is left. -/
def readKeys : (missing found : Nat) → FrameReader (List Mpi)
  | 0, _ => return []
  | missing + 1, found => do
    Reader.ensure Layout.lengthSize (.keyCount (found + missing + 1) found)
    let key ← mpi
    return key :: (← readKeys missing (found + 1))

def readKeyList : FrameReader (List Mpi) := do
  let declared ← length
  Reader.toEnd (readKeys declared 0) .trailing

def read : MessageKind → FrameReader Payload
  | .notOtr => Reader.refuse (.noPayload .notOtr)
  | .offer => do
    ensureExact (4 + Layout.sidContributionSize)
    let position ← Reader.takeNat 4
    return offer (UInt32.ofNat position) (← block _)
  | .dakeHandshake => do
    let ephemeralPublic ← mpi
    return dakeHandshake ephemeralPublic (← lastMpi)
  | .dakeConfirm => do
    ensureExact (4 + Layout.macSize)
    let recipient ← Reader.takeNat 4
    return dakeConfirm (UInt32.ofNat recipient) (← block _)
  | .dakeKey => do
    let recipient ← uint32
    let mac ← block _
    return dakeKey recipient mac (← lastField)
  | .gkaUpflow => do
    let recipient ← uint32
    return gkaUpflow recipient (← readKeyList)
  | .gkaDownflow => return gkaDownflow (← readKeyList)
  | .attest => do
    ensureExact (Layout.sessionIdSize + Layout.tableHashSize)
    let sessionId ← block _
    return attest sessionId (← block _)
  | .data => do
    let counter ← block 8
    return data (UInt64.ofNat (BigEndian.decode counter.bytes)) (← lastField)
  | .shutdownShutdown => do
    ensureExact Layout.participantsHashSize
    return shutdownShutdown (← block _)
  | .shutdownDigest => do
    ensureExact Layout.participantsHashSize
    return shutdownDigest (← block _)
  | .shutdownEnd => do
    ensureExact 0
    return shutdownEnd
  | .shutdownKeyRelease => return shutdownKeyRelease (← lastField)

def decode (kind : MessageKind) (bytes : Bytes) : Except (ReadError FrameError) Payload :=
  (Reader.toEnd (read kind) .trailing).eval bytes

end GroupChat.Payload

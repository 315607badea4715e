import GroupChat.Payload
import GroupChat.Wire.Writer

/-!
Writing payloads: the fields in order, the intermediate keys after their count.
-/
namespace GroupChat.Payload

open Writer

def writeKeys : List Mpi → Writer
  | [] => return
  | key :: rest => do
    putMpi key
    writeKeys rest

def writeKeyList (keys : List Mpi) : Writer := do
  putLength keys.length
  writeKeys keys

def write : Payload → Writer
  | offer position sidContribution => do
    putNat 4 position.toNat
    put sidContribution.bytes
  | dakeHandshake ephemeralPublic longTermPublic => do
    putMpi ephemeralPublic
    putMpi longTermPublic
  | dakeConfirm recipient mac => do
    putNat 4 recipient.toNat
    put mac.bytes
  | dakeKey recipient mac key => do
    putNat 4 recipient.toNat
    put mac.bytes
    putField key
  | gkaUpflow recipient interKeys => do
    putNat 4 recipient.toNat
    writeKeyList interKeys
  | gkaDownflow interKeys => writeKeyList interKeys
  | attest sessionId fingerprint => do
    put sessionId.bytes
    put fingerprint.bytes
  | data counter ciphertext => do
    putNat 8 counter.toNat
    putField ciphertext
  | shutdownShutdown shutdownHash => put shutdownHash.bytes
  | shutdownDigest digest => put digest.bytes
  | shutdownEnd => return
  | shutdownKeyRelease key => putField key

end GroupChat.Payload

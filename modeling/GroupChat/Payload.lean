import GroupChat.MessageKind
import GroupChat.Layout
import GroupChat.Mpi

/-!
What a message carries, by its kind. Intermediate keys are kept in protocol order.
-/
namespace GroupChat

abbrev SessionId := Block Layout.sessionIdSize

inductive Payload where
  | offer (position : UInt32) (sidContribution : Block Layout.sidContributionSize)
  | dakeHandshake (ephemeralPublic longTermPublic : Mpi)
  | dakeConfirm (recipient : UInt32) (mac : Block Layout.macSize)
  | dakeKey (recipient : UInt32) (mac : Block Layout.macSize) (key : Bytes)
  | gkaUpflow (recipient : UInt32) (interKeys : List Mpi)
  | gkaDownflow (interKeys : List Mpi)
  | attest (sessionId : SessionId) (fingerprint : Block Layout.tableHashSize)
  | data (counter : UInt64) (ciphertext : Bytes)
  | shutdownShutdown (shutdownHash : Block Layout.participantsHashSize)
  | shutdownDigest (digest : Block Layout.participantsHashSize)
  | shutdownEnd
  | shutdownKeyRelease (key : Bytes)
deriving DecidableEq

namespace Payload

def kind : Payload → MessageKind
  | offer .. => .offer
  | dakeHandshake .. => .dakeHandshake
  | dakeConfirm .. => .dakeConfirm
  | dakeKey .. => .dakeKey
  | gkaUpflow .. => .gkaUpflow
  | gkaDownflow .. => .gkaDownflow
  | attest .. => .attest
  | data .. => .data
  | shutdownShutdown .. => .shutdownShutdown
  | shutdownDigest .. => .shutdownDigest
  | shutdownEnd => .shutdownEnd
  | shutdownKeyRelease .. => .shutdownKeyRelease

theorem kind_ne_notOtr (payload : Payload) : payload.kind ≠ .notOtr := by
  cases payload <;> simp [kind]

end Payload

end GroupChat

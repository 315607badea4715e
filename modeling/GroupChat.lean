import GroupChat.Armor
import GroupChat.Attestation.Error
import GroupChat.Attestation.Round
import GroupChat.Attestation.Tally
import GroupChat.Bytes
import GroupChat.Bytes.Base64
import GroupChat.Bytes.BigEndian
import GroupChat.Bytes.Hex
import GroupChat.Chat
import GroupChat.ChatError
import GroupChat.ChatSettings
import GroupChat.Ed25519.Curve
import GroupChat.Ed25519.Scheme
import GroupChat.Entropy
import GroupChat.ErrorKind
import GroupChat.FrameError
import GroupChat.Layout
import GroupChat.Message
import GroupChat.MessageKind
import GroupChat.Mpi
import GroupChat.Payload
import GroupChat.Payload.Reader
import GroupChat.Payload.Writer
import GroupChat.Proofs.ArmoredText
import GroupChat.Proofs.Attestation.Failures
import GroupChat.Proofs.Attestation.Faults
import GroupChat.Proofs.Attestation.Marks
import GroupChat.Proofs.Attestation.Objections
import GroupChat.Proofs.Attestation.Steps
import GroupChat.Proofs.Attestation.Verdicts
import GroupChat.Proofs.Base64Spelling
import GroupChat.Proofs.ByteDigits
import GroupChat.Proofs.Consensus.Agreement
import GroupChat.Proofs.Consensus.Group
import GroupChat.Proofs.Consensus.Network
import GroupChat.Proofs.Consensus.Party
import GroupChat.Proofs.Fingerprint
import GroupChat.Proofs.FrameCodec
import GroupChat.Proofs.QuotedText
import GroupChat.Proofs.Roster.Changes
import GroupChat.Proofs.Roster.Convergence
import GroupChat.Proofs.Roster.Standing
import GroupChat.Proofs.RosterOrder
import GroupChat.Proofs.Session.Acceptance
import GroupChat.Proofs.Session.Calls
import GroupChat.Proofs.Session.Completion
import GroupChat.Proofs.Session.Counting
import GroupChat.Proofs.Session.Deliveries
import GroupChat.Proofs.Session.FailedCalls
import GroupChat.Proofs.Session.Findings
import GroupChat.Proofs.Session.Grounds
import GroupChat.Proofs.Session.Namesakes
import GroupChat.Proofs.Session.OwnMark
import GroupChat.Proofs.Session.Reception
import GroupChat.Proofs.Session.Reopening
import GroupChat.Proofs.Session.Strays
import GroupChat.Proofs.Signing.Streams
import GroupChat.Proofs.Signing.Verification
import GroupChat.Proofs.SlotList.Chain
import GroupChat.Proofs.SlotList.Conservation
import GroupChat.Proofs.SlotList.Erasure
import GroupChat.Proofs.SlotList.Faults
import GroupChat.Proofs.SlotList.Generations
import GroupChat.Proofs.SlotList.Handles
import GroupChat.Proofs.SlotList.Links
import GroupChat.Proofs.SlotList.Lookups
import GroupChat.Proofs.SlotList.Operations
import GroupChat.Proofs.SlotList.Refinement
import GroupChat.Proofs.SlotList.Sequence
import GroupChat.Proofs.SlotList.StableOrder
import GroupChat.Proofs.SlotList.Threads
import GroupChat.Proofs.StateSteps
import GroupChat.Proofs.TextTransport
import GroupChat.Proofs.Wire.Cursor
import GroupChat.Proofs.Wire.Delimiting
import GroupChat.Proofs.Wire.Extent
import GroupChat.Proofs.Wire.FrameShape
import GroupChat.Proofs.Wire.Guards
import GroupChat.Proofs.Wire.KeyLists
import GroupChat.Proofs.Wire.Numbers
import GroupChat.Proofs.Wire.Output
import GroupChat.Proofs.Wire.Parts
import GroupChat.Proofs.Wire.PayloadShape
import GroupChat.Proofs.Wire.Peeking
import GroupChat.Proofs.Wire.Reading
import GroupChat.Proofs.Wire.Refusals
import GroupChat.Proofs.Wire.Writing
import GroupChat.Roster
import GroupChat.Sha512
import GroupChat.Signing.Error
import GroupChat.Signing.Key
import GroupChat.Signing.Scheme
import GroupChat.Signing.Signature
import GroupChat.SlotList.Access
import GroupChat.SlotList.Basic
import GroupChat.SlotList.StorageError
import GroupChat.Text.Hidden
import GroupChat.Text.Quoted
import GroupChat.Wire.Fields
import GroupChat.Wire.Reader
import GroupChat.Wire.Writer

import GroupChat.Attestation.Error
import GroupChat.Chat

/-!
Attestation: before a chat is used for encrypted traffic, every participant confirms the session id
and the exact table of participants. Each sends one attestation, which holds the session id and a
fingerprint of the table. The chat turns encrypted when the attestations of all positions have been
confirmed, our own included.

A step that fails leaves the chat as it was when it failed.
-/
namespace GroupChat

abbrev Attesting := EStateM AttestationError Chat

def Roster.fingerprint (roster : Roster) : Except AttestationError Digest := do
  let keys ← roster.toList.mapM fun participant =>
    match participant.key with
    | some key => pure key.publicHalf.bytes
    | none => throw (.noKey participant.name)
  return sha512Concat keys

namespace Chat

def progress (chat : Chat) : Tally := chat.tally.getD (.fresh chat.roster.size)

def withTally (chat : Chat) (tally : Tally) : Chat := { chat with tally := some tally }

def restart (chat : Chat) : Chat := chat.withTally (.fresh chat.roster.size)

/-- Whether an attestation of this session id and fingerprint is one of our session and table. The
table is not looked at when the session is another one. -/
def agrees (chat : Chat) (sessionId : SessionId) (fingerprint : Digest) :
    Except AttestationError Bool :=
  match chat.sessionId with
  | none => .error .noSessionId
  | some ours =>
    if ours = sessionId then chat.roster.fingerprint.map (· = fingerprint) else .ok false

def attestation (chat : Chat) : Except AttestationError Message :=
  match chat.sessionId with
  | none => .error .noSessionId
  | some sessionId => do
    let fingerprint ← chat.roster.fingerprint
    (chat.compose (.attest sessionId fingerprint)).mapError .frame

end Chat

namespace Attesting

variable {α : Type}

def withPosition (position : Nat)
    (next : (tally : Tally) → position < tally.size → Attesting α) : Attesting α := fun chat =>
  let tally := chat.progress
  let chat := chat.withTally tally
  if inRange : position < tally.size then next tally inRange chat
  else .error (.outOfRange position tally.size) chat

/-- Compares the attestation of a position with our session and table. The position is marked if they
agree, and its mark is cleared if not. -/
def check (sessionId : SessionId) (fingerprint : Digest) (position : Nat) : Attesting Bool :=
  withPosition position fun tally inRange chat =>
    match chat.agrees sessionId fingerprint with
    | .error error => .error error chat
    | .ok agrees => .ok agrees (chat.withTally (tally.judge position inRange agrees))

def attestSelf (position : Nat) : Attesting (Option Message) :=
  withPosition position fun tally inRange chat =>
    if tally.marks[position] then .ok none chat
    else match chat.attestation with
      | .error error => .error error chat
      | .ok message => .ok (some message) (chat.withTally (tally.mark position inRange))

def ensureInRange (position : Nat) : Attesting Unit := withPosition position fun _ _ => return

def confirm (sessionId : SessionId) (fingerprint : Digest) (position : Nat) : Attesting Unit := do
  if ← check sessionId fingerprint position then return
  else throw (.disagrees position)

def positionOf (name : String) : Attesting Nat := fun chat =>
  match chat.roster.positionOf? name with
  | some position => .ok position chat
  | none => .error (.notAParticipant name) chat

def ownPosition : Attesting Nat := fun chat => positionOf chat.name chat

def begin : Attesting Unit := fun chat => .ok () (chat.withTally chat.progress)

def ensureAwaiting : Attesting Unit := fun chat =>
  let tally := chat.progress
  let chat := chat.withTally tally
  if tally.stage = .awaiting then .ok () chat else .error .finished chat

def setStage (stage : Stage) : Attesting Unit := fun chat =>
  .ok () (chat.withTally { chat.progress with stage })

def finishIfComplete : Attesting Unit := fun chat =>
  let tally := chat.progress
  if tally.isComplete then
    .ok () { chat.withTally { tally with stage := .finished } with phase := .encrypted }
  else .ok () (chat.withTally tally)

/-- Starts or resumes attestation. Gives out our attestation if it has not been given out yet. -/
def start : Attesting (Option Message) := do
  begin
  let ours ← ownPosition
  let message ← attestSelf ours
  setStage .awaiting
  return message

/-- Takes the attestation of another participant, and gives out ours if it has not been yet. -/
def receive (message : Message) : Attesting (Option Message) :=
  match message.payload with
  | .attest sessionId fingerprint => do
    ensureAwaiting
    let theirs ← positionOf message.sender
    let ours ← ownPosition
    ensureInRange ours
    confirm sessionId fingerprint theirs
    let reply ← attestSelf ours
    finishIfComplete
    return reply
  | _ => throw (.notAttestation message.kind)

end Attesting

end GroupChat

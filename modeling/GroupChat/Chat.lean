import GroupChat.Attestation.Tally
import GroupChat.ChatSettings
import GroupChat.Message
import GroupChat.Roster

/-!
The state of one chat as one of its participants sees it.
-/
namespace GroupChat

inductive Phase where
  | plaintext
  | encrypted
  | finished
deriving DecidableEq

structure Chat where
  settings : ChatSettings
  name : String
  sessionId : Option SessionId
  roster : Roster
  tally : Option Tally
  phase : Phase

namespace Chat

def new (settings : ChatSettings) (name : String) : Chat where
  settings
  name
  sessionId := none
  roster := .empty
  tally := none
  phase := .plaintext

def origin (chat : Chat) : Origin where
  version := chat.settings.version
  ownInstance := chat.settings.ownInstance
  chatInstance := chat.settings.chatInstance
  name := chat.name
  sessionId := chat.sessionId

def compose (chat : Chat) (payload : Payload) : Except FrameError Message :=
  Message.new chat.origin payload

def withSession (chat : Chat) (sessionId : SessionId) : Chat :=
  { chat with sessionId := some sessionId }

def ownPosition? (chat : Chat) : Option Nat := chat.roster.positionOf? chat.name

/-- Forgets everything that the session has settled. The participants stay. -/
def reset (chat : Chat) : Chat :=
  { chat with sessionId := none, tally := none, phase := .plaintext }

end Chat

end GroupChat

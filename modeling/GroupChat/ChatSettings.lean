import GroupChat.Layout

/-!
What a chat puts into the header of every message. Settings are read by name: those that are missing
keep their defaults, and names that mean nothing are passed over.
-/
namespace GroupChat

structure ChatSettings where
  version : UInt16 := Layout.protocolVersion
  ownInstance : UInt32 := 0
  chatInstance : UInt32 := Layout.chatInstanceTag
deriving DecidableEq

/-- The value of a setting: a whole number, or anything else. -/
inductive SettingValue where
  | whole (number : Int)
  | other

namespace SettingValue

def below? (value : SettingValue) (bound : Nat) : Option Nat :=
  match value with
  | whole number => if 0 ≤ number ∧ number < bound then some number.toNat else none
  | other => none

end SettingValue

namespace ChatSettings

def default : ChatSettings := {}

def withVersion (settings : ChatSettings) (version : UInt16) : ChatSettings :=
  { settings with version }

def withOwnInstance (settings : ChatSettings) (ownInstance : UInt32) : ChatSettings :=
  { settings with ownInstance }

def withChatInstance (settings : ChatSettings) (chatInstance : UInt32) : ChatSettings :=
  { settings with chatInstance }

def set? (settings : ChatSettings) (name : String) (value : SettingValue) : Option ChatSettings :=
  match name with
  | "protocol_version" =>
    (value.below? UInt16.size).map fun number => settings.withVersion (UInt16.ofNat number)
  | "our_instance" =>
    (value.below? UInt32.size).map fun number => settings.withOwnInstance (UInt32.ofNat number)
  | "chat_instance" =>
    (value.below? UInt32.size).map fun number => settings.withChatInstance (UInt32.ofNat number)
  | _ => some settings

def ofNamed? (values : List (String × SettingValue)) : Option ChatSettings :=
  values.foldlM (fun settings (name, value) => settings.set? name value) default

def toJson (settings : ChatSettings) : String :=
  "\x7b\"protocol_version\":" ++ toString settings.version ++
    ",\"our_instance\":" ++ toString settings.ownInstance ++
    ",\"chat_instance\":" ++ toString settings.chatInstance ++ "\x7d"

end ChatSettings

end GroupChat

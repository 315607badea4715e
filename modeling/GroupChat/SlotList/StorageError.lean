import GroupChat.ErrorKind

/-!
The one way in which storing an element can fail. The lists of this library never run out of room;
the error is there for callers that keep their elements elsewhere.
-/
namespace GroupChat

inductive StorageError where
  | exhausted
deriving DecidableEq

namespace StorageError

def text : StorageError → String
  | exhausted => "Could not allocate a new list node"

def kind : StorageError → ErrorKind
  | exhausted => .resourceExhaustion

end StorageError

end GroupChat

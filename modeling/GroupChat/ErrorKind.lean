/-!
What an error is about, whichever part of the library it comes from.
-/
namespace GroupChat

inductive ErrorKind where
  | malformed
  | resourceExhaustion
  | protocolViolation
  | cryptographic
  | authenticationMismatch
deriving DecidableEq

end GroupChat

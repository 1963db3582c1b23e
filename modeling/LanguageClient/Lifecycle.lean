import LanguageClient.Text.Quoted

/-!
# The lifecycle of a client
-/

namespace LanguageClient

inductive Lifecycle where
  | starting
  | initializing
  | ready
  | shuttingDown
  | closed
  /-- The connection or the handshake failed. -/
  | error (reason : String)
deriving DecidableEq, Repr

namespace Lifecycle

def name : Lifecycle → String
  | .starting => "Starting"
  | .initializing => "Initializing"
  | .ready => "Ready"
  | .shuttingDown => "ShuttingDown"
  | .closed => "Closed"
  | .error _ => "Error"

def describe : Lifecycle → String
  | .error reason => s!"Error({Text.quote reason})"
  | state => state.name

def isTerminal : Lifecycle → Bool
  | .closed | .error _ => true
  | _ => false

def isClosing : Lifecycle → Bool
  | .shuttingDown | .closed => true
  | _ => false

/-- The state after the connection was lost; a client that closes does not mind. -/
def lose (state : Lifecycle) (reason : String) : Lifecycle :=
  if state.isClosing then state else .error reason

/-- The state after the handshake failed; the reason of a lost connection is kept,
and a client that closes stays so. -/
def failHandshake (state : Lifecycle) (reason : String) : Lifecycle :=
  match state with
  | .initializing | .ready => .error reason
  | state => state

end Lifecycle

end LanguageClient

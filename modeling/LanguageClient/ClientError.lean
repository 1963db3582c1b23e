import LanguageClient.FileTree
import LanguageClient.Frame.Error
import LanguageClient.Lifecycle
import LanguageClient.Message.ResponseError

/-!
# Errors of client operations
-/

namespace LanguageClient

inductive ClientError where
  | spawn (command : String) (error : FileError)
  | commandNotFound (command : String)
  | io (error : FileError)
  | frame (error : FrameError)
  | unreadable (error : Json.DecodeError)
  | refused (method : String) (error : ResponseError)
  | connectionClosed
  | cancelled (method : String)
  | timedOut (method : String)
  | notOpen (path : Path)
  | invalidPath (path : Path)
  | alreadyClosed
  | invalidState (state : Lifecycle)
deriving DecidableEq

namespace ClientError

def message : ClientError → String
  | .spawn command error => s!"failed to start language server `{command}`: {error.message}"
  | .commandNotFound command => s!"language server executable `{command}` not found in PATH"
  | .io error => error.message
  | .frame error => error.message
  | .unreadable error => s!"failed to (de)serialize LSP payload: {error.message}"
  | .refused method error => s!"language server returned error for `{method}`: {error.display}"
  | .connectionClosed => "connection to language server closed"
  | .cancelled method => s!"request `{method}` was cancelled"
  | .timedOut method => s!"request `{method}` timed out"
  | .notOpen path => s!"cannot notify change for unopened file: {path.display}"
  | .invalidPath path => s!"cannot convert path to file URI: {path.display}"
  | .alreadyClosed => "language server client already closed"
  | .invalidState state => s!"cannot initialize while the client is {state.describe}"

/-- The messages of the causes behind an error, the nearest first. -/
def causes : ClientError → List String
  | .spawn _ error => [error.message]
  | .frame error => error.causes
  | .unreadable error => [error.message]
  | _ => []

end ClientError

end LanguageClient

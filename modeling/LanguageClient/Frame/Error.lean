import LanguageClient.Json.SyntaxError
import LanguageClient.Text.Quoted

/-!
# Frame errors

What can go wrong with a frame on a stream of bytes.  After a malformed frame
the stream stands at the next one; after a fatal error nothing more can be read.
-/

namespace LanguageClient

/-- The greatest body of a frame, in bytes: 16 MiB. -/
def greatestBody : Nat := 16 * 1024 * 1024

inductive FramePart where
  | headers
  | body
  | skippedBody
deriving DecidableEq, Repr

def FramePart.name : FramePart → String
  | .headers => "frame headers"
  | .body => "frame body"
  | .skippedBody => "oversized frame body"

inductive HeaderFault where
  | notUtf8 (shown : String)
  | withoutColon (line : String)
  | invalidLength (value : String)
  | missingLength
deriving DecidableEq, Repr

def HeaderFault.message : HeaderFault → String
  | .notUtf8 shown => s!"header line is not UTF-8: {Text.quote shown}"
  | .withoutColon line => s!"header line without colon: {Text.quote line}"
  | .invalidLength value => s!"invalid Content-Length value: {Text.quote value}"
  | .missingLength => "missing Content-Length header"

inductive FrameError where
  | io (message : String)
  | unexpectedEnd (part : FramePart)
  | malformedHeader (fault : HeaderFault)
  | oversized (length : Nat)
  | invalidJson (error : Json.SyntaxError)
deriving DecidableEq, Repr

namespace FrameError

def message : FrameError → String
  | .io message => s!"I/O error on LSP stream: {message}"
  | .unexpectedEnd part => s!"unexpected EOF while reading {part.name}"
  | .malformedHeader fault => s!"malformed frame header: {fault.message}"
  | .oversized length => s!"Content-Length {length} exceeds maximum {greatestBody}"
  | .invalidJson error => s!"invalid JSON-RPC body: {error.message}"

def isFatal : FrameError → Bool
  | .io _ | .unexpectedEnd _ => true
  | _ => false

def causes : FrameError → List String
  | .io message => [message]
  | .invalidJson error => [error.message]
  | _ => []

end FrameError

end LanguageClient

import LanguageClient.Frame.Error
import LanguageClient.Json.Printer
import LanguageClient.Text.Utf8

/-!
# Writing frames

The bytes of a frame, and a sink that takes a limited number of bytes.
-/

namespace LanguageClient.Frame

/-- The text of a frame: the header with the number of bytes of the body, and the
body. -/
def text (value : Json) : String :=
  let body := value.render
  s!"Content-Length: {body.utf8ByteSize}\r\n\r\n" ++ body

def encode (value : Json) : List UInt8 :=
  Text.Utf8.encode (text value)

/-- A place that bytes are written to.  It takes bytes as long as it has room;
what is written beyond fails, after the part that fits was kept. -/
structure Sink where
  written : List UInt8
  /-- The number of bytes it still takes; no bound if there is none. -/
  room : Option Nat
deriving DecidableEq, Repr

namespace Sink

/-- The failure of a sink without room. -/
def fullMessage : String := "sink is full"

def empty (limit : Option Nat) : Sink := ⟨[], limit⟩

def write (sink : Sink) (bytes : List UInt8) : Except FrameError Unit × Sink :=
  match sink.room with
  | none => (.ok (), { sink with written := sink.written ++ bytes })
  | some room =>
      let kept := bytes.take room
      let sink := ⟨sink.written ++ kept, some (room - kept.length)⟩
      (if kept.length = bytes.length then .ok () else .error (.io fullMessage), sink)

def writeFrame (sink : Sink) (value : Json) : Except FrameError Unit × Sink :=
  sink.write (encode value)

/-- Writes frames one after the other, each with a result of its own. -/
def writeFrames (sink : Sink) : List Json → List (Except FrameError Unit) × Sink
  | [] => ([], sink)
  | value :: values =>
      let (result, sink) := sink.writeFrame value
      let (results, sink) := sink.writeFrames values
      (result :: results, sink)

/-- Closes the sink: it takes no byte any more. -/
def shutdown (sink : Sink) : Sink :=
  { sink with room := some 0 }

end Sink

end LanguageClient.Frame

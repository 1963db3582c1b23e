import LanguageClient.Frame.Reader
import LanguageClient.Frame.Writer
import LanguageClient.Server.Outlook

/-!
# The sample server

A server to try clients with.  It answers the request that opens a session with a
fixed result, reports one diagnostic for every document that is opened or changed,
and gives all other requests back as they came.
-/

namespace LanguageClient

inductive SampleMode where
  | plain
  /-- It does not answer the request to shut down and never ends by itself. -/
  | stubborn
  /-- It writes two malformed frames before anything else. -/
  | malformedFirst
deriving DecidableEq, Repr

/-- The sample server between two frames: its mode, and the methods of the messages
it has received. -/
structure SampleServer where
  mode : SampleMode
  methods : List String
deriving DecidableEq, Repr

namespace SampleMode

/-- The mode that the first argument asks for; without one it is the plain mode. -/
def ofArguments? (arguments : List String) : Option SampleMode :=
  match arguments with
  | [] | "normal" :: _ => some .plain
  | "ignore-shutdown" :: _ => some .stubborn
  | "malformed-first" :: _ => some .malformedFirst
  | _ => none

/-- What is written before anything else. -/
def greeting : SampleMode → String
  | .malformedFirst => "Content-Length: nope\r\n\r\nContent-Length: 5\r\n\r\n\x7boops"
  | _ => ""

end SampleMode

namespace SampleServer

def openingResult : Json :=
  .ofMembers [
    ("capabilities", .ofMembers [("textDocumentSync", .nat 1), ("hoverProvider", .bool true)]),
    ("serverInfo", .ofMembers [
      ("name", .string "fake-lsp-server"), ("version", .string "1.0.0")])]

def memberOf (value : Json) (key : String) : Json :=
  (value.member? key).getD .null

def response (id result : Json) : Json :=
  .ofMembers [("jsonrpc", .string "2.0"), ("id", id), ("result", result)]

def placeInFirstLine (character : Nat) : Json :=
  .ofMembers [("line", .nat 0), ("character", .nat character)]

def diagnostic : Json :=
  .ofMembers [
    ("range", .ofMembers [("start", placeInFirstLine 0), ("end", placeInFirstLine 1)]),
    ("severity", .nat 2),
    ("source", .string "fake"),
    ("message", .string "fake diagnostic")]

def report (params : Json) : Json :=
  let document := memberOf params "textDocument"
  .ofMembers [
    ("jsonrpc", .string "2.0"),
    ("method", .string "textDocument/publishDiagnostics"),
    ("params", .ofMembers [
      ("uri", memberOf document "uri"),
      ("version", memberOf document "version"),
      ("diagnostics", .array [diagnostic])])]

inductive Reaction where
  | silent
  | writes (frame : Json)
  | ends
deriving DecidableEq

def answer (server : SampleServer) (method : String) (id params : Json) : Reaction :=
  if method = "initialize" then .writes (response id openingResult)
  else if method = "shutdown" then
    if server.mode = .stubborn then .silent else .writes (response id .null)
  else if method = "fake/receivedMethods" then
    .writes (response id (.array (server.methods.map .string)))
  else .writes (response id (.ofMembers [("method", .string method), ("params", params)]))

def notice (server : SampleServer) (method : String) (params : Json) : Reaction :=
  if method = "exit" then if server.mode = .stubborn then .silent else .ends
  else if method = "textDocument/didOpen" || method = "textDocument/didChange" then
    .writes (report params)
  else .silent

/-- Receives a frame; one without a method is passed over. -/
def receive (server : SampleServer) (frame : Json) : Reaction × SampleServer :=
  match frame.member? "method" with
  | some (.string method) =>
      let server := { server with methods := server.methods ++ [method] }
      let params := memberOf frame "params"
      match frame.member? "id" with
      | some id => (server.answer method id params, server)
      | none => (server.notice method params, server)
  | _ => (.silent, server)

end SampleServer

/-! ## The sample server at work -/

/-- A sample server that runs, with the bytes that are not a whole frame yet. -/
structure RunningSample where
  server : SampleServer
  unread : List UInt8
  /-- Whether it has written its greeting. -/
  hasGreeted : Bool
deriving DecidableEq, Repr

namespace RunningSample

/-- The sample server before it has done anything. -/
def start (mode : SampleMode) : RunningSample := ⟨⟨mode, []⟩, [], false⟩

/-- What the sample server has come to after some bytes: the frames it writes, the
bytes that are left, and whether it has ended. -/
structure Reading where
  server : SampleServer
  written : List UInt8
  left : List UInt8
  isOver : Bool

def readFrames : (fuel : Nat) → SampleServer → (written : List UInt8) → ByteStream → Reading
  | 0, server, written, stream => ⟨server, written, stream.bytes, false⟩
  | fuel + 1, server, written, stream =>
      match Frame.read stream with
      | .frame value rest =>
          let (reaction, server) := server.receive value
          match reaction with
          | .silent => readFrames fuel server written ⟨rest, stream.ending⟩
          | .writes frame =>
              readFrames fuel server (written ++ Frame.encode frame) ⟨rest, stream.ending⟩
          | .ends => ⟨server, written, [], true⟩
      | .malformed _ rest => readFrames fuel server written ⟨rest, stream.ending⟩
      | .fatal _ | .finished => ⟨server, written, [], server.mode ≠ .stubborn⟩
      | .blocked => ⟨server, written, stream.bytes, false⟩

def turn (outlook : Outlook) (sample : RunningSample) : ProgramTurn RunningSample :=
  let held := outlook.held
  if !sample.hasGreeted then
    let greeting := Text.Utf8.encode sample.server.mode.greeting
    .goesOn (Deed.writing greeting) { sample with hasGreeted := true }
  else if held.isEmpty && (!outlook.isClosed || sample.server.mode = .stubborn) then .waits
  else
    let bytes := sample.unread ++ held
    let streamEnd := if outlook.isOver then StreamEnd.closed else .open
    let reading := readFrames (bytes.length + 1) sample.server [] ⟨bytes, streamEnd⟩
    if !reading.written.isEmpty && !outlook.takesBytes then .ends [] (.code 1)
    else
      let deeds := Deed.taking held.length ++ Deed.writing reading.written
      if reading.isOver then .ends deeds (.code 0)
      else .goesOn deeds ⟨reading.server, reading.left, true⟩

end RunningSample

end LanguageClient

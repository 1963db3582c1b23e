import LanguageClient.Operation.Calling
import LanguageClient.Operation.Documents
import LanguageClient.SourceFiles

/-!
# Opening a session

The handshake: the client asks the server to open a session, announces that it has
understood the answer, and is ready unless it was closed or cut off meanwhile.  When a
session has been opened something may be done for the family of the server: a TypeScript
server is shown the first source files of the workspace.
-/

namespace LanguageClient

/-! ## Preloading -/

inductive Preloading where
  | starting (family : ServerFamily) (workspace : Path)
  /-- The files are looked for. -/
  | finding (workspace : Path)
  /-- The files still to be opened. -/
  | next (left : List Path)
  | opening (document : Opening) (left : List Path)
deriving DecidableEq

namespace Preloading

/-- A step of preloading.  A file that cannot be opened is passed over. -/
def step (turn : Turn) (client : Client) : Preloading → Step Preloading Unit
  | .starting .generic _ => .finished client (.ok ())
  | .starting .typeScript workspace => .running client (.finding workspace)
  | .finding workspace =>
      .running client (.next (SourceFiles.find client.files client.directory workspace))
  | .next [] => .finished client (.ok ())
  | .next (path :: left) => .running client (.opening (.starting path) left)
  | .opening document left =>
      (document.step turn client).lift (fun document => .opening document left)
        fun client _ => .running client (.next left)

/-- Gives up; the files that were opened stay open. -/
def abandon (task : TaskId) (client : Client) : Preloading → Client
  | .starting _ _ | .finding _ | .next _ => client
  | .opening document _ => document.abandon task client

end Preloading

/-! ## The handshake -/

inductive Initializing where
  | starting (workspace : Path) (custom : Option Json.Members)
  /-- The state has been claimed. -/
  | preparing (workspace : Path) (custom : Option Json.Members)
  /-- Some of the built-in handlers have been registered. -/
  | registering (workspace : Path) (rootUri : String) (options : Option Json) (registered : Nat)
  | calling (workspace : Path) (call : TimedCall)
  | announcing (workspace : Path) (result : InitializeResult) (frame : Sending)
  /-- The announcement has been sent. -/
  | settling (workspace : Path) (result : InitializeResult)
  | preloading (result : InitializeResult) (files : Preloading)
  | failing (error : ClientError)
deriving DecidableEq

namespace Initializing

/-- The options of a session that the caller gives; empty ones count as none. -/
def givenOptions (custom : Option Json.Members) : Option Json :=
  match custom with
  | none | some [] => none
  | some members => some (.object members)

def prepare (client : Client) (workspace : Path) (custom : Option Json.Members) :
    Step Initializing InitializeResult :=
  match Client.uriOf workspace with
  | .error error => .running client (.failing error)
  | .ok rootUri => .running client (.registering workspace rootUri (givenOptions custom) 0)

/-- Registers the next of the built-in handlers.  Behind the last of them the first message
is sent; between two of them others may register handlers and messages may come. -/
def register (client : Client) (workspace : Path) (rootUri : String) (options : Option Json)
    (registered : Nat) : Step Initializing InitializeResult :=
  match (HandlerRegistry.builtins (options.getD .null))[registered]? with
  | some registration =>
      .running { client with handlers := client.handlers.register registration }
        (.registering workspace rootUri options (registered + 1))
  | none =>
      let params :=
        Handshake.params client.options.processId client.options.info workspace rootUri
          (options.getD Handshake.defaultOptions)
      .running client
        (.calling workspace (.start "initialize" (some params) client.options.initializeLimit))

def announce (client : Client) (workspace : Path) (answer : Except ClientError Json) :
    Step Initializing InitializeResult :=
  match answer with
  | .error error => .running client (.failing error)
  | .ok value =>
      match InitializeResult.decode value with
      | .error error => .running client (.failing (.unreadable error))
      | .ok result =>
          let notice := Outgoing.notification "initialized" (some (.object []))
          .running client (.announcing workspace result (.start notice))

def step (turn : Turn) (client : Client) : Initializing → Step Initializing InitializeResult
  | .starting workspace custom =>
      if client.state = .starting then
        .running { client with state := .initializing } (.preparing workspace custom)
      else .finished client (.error (.invalidState client.state))
  | .preparing workspace custom => prepare client workspace custom
  | .registering workspace rootUri options registered =>
      register client workspace rootUri options registered
  | .calling workspace call =>
      (call.step turn client).lift (.calling workspace) fun client answer =>
        announce client workspace answer
  | .announcing workspace result frame =>
      (frame.step turn client).lift (.announcing workspace result) fun client sent =>
        match sent with
        | .ok () => .running client (.settling workspace result)
        | .error error => .running client (.failing error)
  | .settling workspace result =>
      if client.state = .initializing then
        .running { client with state := .ready }
          (.preloading result (.starting client.family workspace))
      else .running client (.failing .connectionClosed)
  | .preloading result files =>
      (files.step turn client).lift (.preloading result) fun client loaded =>
        match loaded with
        | .ok () => .finished client (.ok result)
        | .error error => .running client (.failing error)
  | .failing error =>
      .finished { client with state := client.state.failHandshake error.message } (.error error)

/-- Gives up; the state stays as it is. -/
def abandon (task : TaskId) (client : Client) : Initializing → Client
  | .starting _ _ | .preparing _ _ | .registering _ _ _ _ | .settling _ _ | .failing _ => client
  | .calling _ call => call.abandon task client
  | .announcing _ _ frame => frame.abandon task client
  | .preloading _ files => files.abandon task client

end Initializing

end LanguageClient

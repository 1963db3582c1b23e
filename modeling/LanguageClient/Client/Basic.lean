import LanguageClient.Client.Lock
import LanguageClient.Client.Pipe
import LanguageClient.ClientError
import LanguageClient.ExitStatus
import LanguageClient.Handler.Registry
import LanguageClient.Handshake
import LanguageClient.PendingCalls
import LanguageClient.ServerFamily

/-!
# Clients

What the operations of a client share: its state, the connection to the server,
and the tables of calls, handlers, documents and diagnostics.
-/

namespace LanguageClient

structure CloseLimits where
  closeFiles : Nat := 5000
  shutdownRequest : Nat := 500
  /-- For the last notification, and once more for closing the stream. -/
  exitNotification : Nat := 500
  /-- For the server to end by itself. -/
  exitGrace : Nat := 2000
deriving DecidableEq, Repr

structure ClientOptions where
  info : ClientInfo := ClientInfo.own
  /-- The number of the process that the client runs in. -/
  processId : Nat
  /-- The limit of the request that opens a session, in milliseconds. -/
  initializeLimit : Nat := 30000
  limits : CloseLimits := {}
deriving DecidableEq, Repr

inductive ServerProcess where
  | running
  | ended (status : ExitStatus)
deriving DecidableEq, Repr

/-- The number of a token that calls can be cancelled by. -/
abbrev TokenId := Nat

structure Client where
  options : ClientOptions
  family : ServerFamily
  state : Lifecycle
  /-- The lock of the stream to the server. -/
  writer : Lock
  /-- Whether the stream to the server is still open for writing. -/
  isInputOpen : Bool
  pipe : Pipe
  calls : PendingCalls
  handlers : HandlerRegistry
  diagnostics : DiagnosticsCache
  /-- The open documents with their versions. -/
  documents : List (String × Int)
  /-- The lock of the open documents. -/
  documentsLock : Lock
  /-- The tokens that were cancelled. -/
  cancelled : List TokenId
  /-- The process of the server, if the client has started one. -/
  server : Option ServerProcess
  files : FileTree
  /-- The working directory. -/
  directory : List EntryName
  /-- The time in milliseconds. -/
  now : Nat

namespace Client

def connect (options : ClientOptions) (capacity : Nat) (files : FileTree)
    (directory : List EntryName) : Client where
  options := options
  family := .generic
  state := .starting
  writer := .free
  isInputOpen := true
  pipe := .empty capacity Pipe.innerFailure
  calls := .empty
  handlers := .empty
  diagnostics := .empty
  documents := []
  documentsLock := .free
  cancelled := []
  server := none
  files := files
  directory := directory
  now := 0

/-! ## Locks -/

def askWriter (client : Client) (task : TaskId) : Client :=
  { client with writer := client.writer.ask task .exclusive }

def releaseWriter (client : Client) (task : TaskId) : Client :=
  { client with writer := client.writer.release task }

def askDocuments (client : Client) (task : TaskId) (mode : LockMode) : Client :=
  { client with documentsLock := client.documentsLock.ask task mode }

def releaseDocuments (client : Client) (task : TaskId) : Client :=
  { client with documentsLock := client.documentsLock.release task }

/-! ## Documents -/

def version? (client : Client) (uri : String) : Option Int :=
  (client.documents.find? fun entry => entry.1 = uri).map Prod.snd

def setVersion (client : Client) (uri : String) (version : Int) : Client :=
  { client with
    documents := (client.documents.filter fun entry => entry.1 ≠ uri) ++ [(uri, version)] }

def dropDocument (client : Client) (uri : String) : Client :=
  { client with documents := client.documents.filter fun entry => entry.1 ≠ uri }

def uriOf (path : Path) : Except ClientError String :=
  match FileUri.ofPath? path with
  | some uri => .ok uri
  | none => .error (.invalidPath path)

/-- The open documents in the order of their URIs. -/
def openDocuments (client : Client) : List (String × Int) :=
  client.documents.mergeSort fun a b => !(b.1 < a.1)

def isOpen (client : Client) (path : Path) : Bool :=
  match uriOf path with
  | .ok uri => (client.version? uri).isSome
  | .error _ => false

def diagnosticsOf (client : Client) (path : Path) : List Diagnostic :=
  match uriOf path with
  | .ok uri => client.diagnostics.get uri
  | .error _ => []

end Client

/-! ## Questions

What a user can ask of a client at any time without waiting.
-/

inductive ClientQuery where
  | state
  | family
  | hasProcess
  | isOpen (path : Path)
  | openDocuments
  | diagnostics (uri : String)
  | diagnosticsOf (path : Path)
  | files

inductive ClientFact where
  | flag (value : Bool)
  | state (state : Lifecycle)
  | family (family : ServerFamily)
  /-- Documents with their versions. -/
  | documents (documents : List (String × Int))
  | diagnostics (diagnostics : List Diagnostic)
  | files (tree : FileTree)

def Client.ask (client : Client) : ClientQuery → ClientFact
  | .state => .state client.state
  | .family => .family client.family
  | .hasProcess => .flag client.server.isSome
  | .isOpen path => .flag (client.isOpen path)
  | .openDocuments => .documents client.openDocuments
  | .diagnostics uri => .diagnostics (client.diagnostics.get uri)
  | .diagnosticsOf path => .diagnostics (client.diagnosticsOf path)
  | .files => .files client.files

end LanguageClient

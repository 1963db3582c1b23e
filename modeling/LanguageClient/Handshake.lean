import LanguageClient.Json.Decode
import LanguageClient.Path

/-!
# The handshake

The parameters of the request that opens a session and the result it is answered
with.
-/

namespace LanguageClient

structure ClientInfo where
  name : String
  version : String
deriving DecidableEq, Repr

namespace ClientInfo

def own : ClientInfo := ⟨"langbridge", "0.1.0"⟩

def toJson (info : ClientInfo) : Json :=
  .ofMembers [("name", .string info.name), ("version", .string info.version)]

end ClientInfo

namespace Handshake

/-- The options of a session for which none are given. -/
def defaultOptions : Json :=
  .ofMembers [("codelenses", .ofMembers [
    ("generate", .bool true),
    ("regenerate_cgo", .bool true),
    ("test", .bool true),
    ("tidy", .bool true),
    ("upgrade_dependency", .bool true),
    ("vendor", .bool true),
    ("vulncheck", .bool false)])]

private def dynamic : String × Json := ("dynamicRegistration", .bool true)

def workspaceCapabilities : Json :=
  .ofMembers [
    ("configuration", .bool true),
    ("applyEdit", .bool true),
    ("didChangeConfiguration", .ofMembers [dynamic]),
    ("didChangeWatchedFiles", .ofMembers [dynamic, ("relativePatternSupport", .bool true)])]

def documentCapabilities : Json :=
  .ofMembers [
    ("synchronization", .ofMembers [dynamic, ("didSave", .bool true)]),
    ("completion", .ofMembers [("completionItem", .object [])]),
    ("codeLens", .ofMembers [dynamic]),
    ("documentSymbol", .object []),
    ("codeAction", .ofMembers [("codeActionLiteralSupport",
      .ofMembers [("codeActionKind", .ofMembers [("valueSet", .array [])])])]),
    ("publishDiagnostics", .ofMembers [("versionSupport", .bool true)]),
    ("semanticTokens", .ofMembers [
      ("requests", .ofMembers [("range", .object []), ("full", .object [])]),
      ("tokenTypes", .array []),
      ("tokenModifiers", .array []),
      ("formats", .array [])])]

def capabilities : Json :=
  .ofMembers [
    ("workspace", workspaceCapabilities),
    ("textDocument", documentCapabilities),
    ("window", .object [])]

/-- The parameters of the request that opens a session. -/
def params (processId : Nat) (client : ClientInfo) (root : Path) (rootUri : String)
    (options : Json) : Json :=
  .ofMembers [
    ("processId", .nat processId),
    ("clientInfo", client.toJson),
    ("rootPath", .string root.display),
    ("rootUri", .string rootUri),
    ("workspaceFolders",
      .array [.ofMembers [("uri", .string rootUri), ("name", .string root.display)]]),
    ("capabilities", capabilities),
    ("initializationOptions", options)]

end Handshake

structure ServerInfo where
  name : String
  version : Option String
deriving DecidableEq, Repr

/-- The result of the request that opens a session.  The capabilities of the
server are kept as they were sent. -/
structure InitializeResult where
  capabilities : Json
  server : Option ServerInfo
deriving DecidableEq, Repr

namespace ServerInfo

def decode : Json.Decoder ServerInfo :=
  Json.decodeRecord2 "ServerInfo" (.required "name" Json.decodeString)
    (.optional "version" Json.decodeString) .mk

end ServerInfo

namespace InitializeResult

def decode : Json.Decoder InitializeResult :=
  Json.decodeRecord2 "InitializeResult" (.withDefault "capabilities" Json.decodeAny .null)
    (.optional "serverInfo" ServerInfo.decode) .mk

end InitializeResult

end LanguageClient

import LanguageClient.Executable
import LanguageClient.Host.CommandLine
import LanguageClient.Json.Parser

/-!
# The configuration of the host

What the command line asks for, checked against the files.  The options of a server
are taken from a file that holds an object with a member for each server.
-/

namespace LanguageClient

structure Configuration where
  /-- The path of the workspace without detours. -/
  workspace : Path
  command : String
  arguments : List String
  /-- The options that the session is opened with. -/
  options : Option Json.Members
deriving DecidableEq

inductive ConfigurationError where
  | workspaceMissing (path : Path)
  | workspaceNotDirectory (path : Path)
  | commandNotFound (command : String)
  | unreadable (path : Path) (error : FileError)
  | malformed (path : Path) (error : Json.SyntaxError)
  | notObject (server : String)
deriving DecidableEq

namespace ConfigurationError

def message : ConfigurationError → String
  | .workspaceMissing path => s!"workspace directory does not exist: {path.display}"
  | .workspaceNotDirectory path => s!"workspace is not a directory: {path.display}"
  | .commandNotFound command => s!"LSP command not found: {command}"
  | .unreadable path error => s!"failed to read config file {path.display}: {error.message}"
  | .malformed path error => s!"failed to parse config file {path.display}: {error.message}"
  | .notObject server => s!"config for {server} must be a JSON object"

/-- The messages of the causes behind an error, the nearest first. -/
def causes : ConfigurationError → List String
  | .unreadable _ error => [error.message]
  | .malformed _ error => [error.message]
  | _ => []

end ConfigurationError

namespace Configuration

/-- The name of a server: that of its executable, without directory and extension. -/
def serverName (command : String) : String :=
  match (Path.ofString command).fileStem? with
  | some stem => Text.Utf8.decodeLossy stem
  | none => command

def loadOptions (surroundings : Surroundings) (path : Path) (server : String) :
    Except ConfigurationError (Option Json.Members) :=
  match surroundings.files.readText surroundings.directory path with
  | .error error => .error (.unreadable path error)
  | .ok text =>
      match Json.parseObject (Text.Utf8.encode text) with
      | .error error => .error (.malformed path error)
      | .ok servers =>
          match Json.Members.get? servers server with
          | none => .ok none
          | some (.object options) => .ok (some options)
          | some _ => .error (.notObject server)

def findWorkspace (surroundings : Surroundings) (path : Path) : Except ConfigurationError Path :=
  match surroundings.files.locate surroundings.directory path with
  | .error _ => .error (.workspaceMissing path)
  | .ok place =>
      if place.tree.isDirectory then .ok (.ofNames place.names)
      else .error (.workspaceNotDirectory (.ofNames place.names))

/-- Checks what a command line asks for: the workspace, then the command, then the
options. -/
def ofCommandLine (surroundings : Surroundings) (line : CommandLine) :
    Except ConfigurationError Configuration := do
  let workspace ← findWorkspace surroundings line.workspace
  if (surroundings.executable? line.lsp).isNone then throw (.commandNotFound line.lsp)
  let options ←
    match line.config with
    | some path => loadOptions surroundings path (serverName line.lsp)
    | none => pure none
  return { workspace, command := line.lsp, arguments := line.serverArguments, options }

end Configuration

end LanguageClient

import LanguageClient.Path
import LanguageClient.Position

/-!
# Diagnostics

What a server says about a range of a document.  Members without a field of
their own are kept as they were sent.
-/

namespace LanguageClient

/-- How grave a diagnostic is. -/
inductive Severity where
  | error
  | warning
  | information
  | hint
deriving DecidableEq, Repr

namespace Severity

def ofNumber? : Nat → Option Severity
  | 1 => some .error
  | 2 => some .warning
  | 3 => some .information
  | 4 => some .hint
  | _ => none

def number : Severity → Nat
  | .error => 1
  | .warning => 2
  | .information => 3
  | .hint => 4

def label : Severity → String
  | .error => "error"
  | .warning => "warning"
  | .information => "info"
  | .hint => "hint"

end Severity

/-- A diagnostic.  The severity is kept as the number that was sent. -/
structure Diagnostic where
  range : Range
  severityNumber : Option Nat
  code : Option Json
  source : Option String
  message : String
  extra : Json.Members
deriving DecidableEq

namespace Diagnostic

def fieldNames : List String := ["range", "severity", "code", "source", "message"]

def rangeField : Json.Field Range := .required "range" Range.decode

def severityField : Json.Field (Option Nat) := .optional "severity" (Json.decodeNat 64)

def codeField : Json.Field (Option Json) := .optional "code" Json.decodeAny

def sourceField : Json.Field (Option String) := .optional "source" Json.decodeString

def messageField : Json.Field String := .required "message" Json.decodeString

def memberFault? (key : String) (value : Json) : Option Json.DecodeError :=
  (rangeField.fault? key value).or <| (severityField.fault? key value).or <|
    (sourceField.fault? key value).or (messageField.fault? key value)

/-- Reads a diagnostic; only an object holds one. -/
def decode : Json.Decoder Diagnostic
  | .object members => do
      Json.checkMembers members memberFault?
      return {
        range := ← rangeField.ofMembers members
        severityNumber := ← severityField.ofMembers members
        code := ← codeField.ofMembers members
        source := ← sourceField.ofMembers members
        message := ← messageField.ofMembers members
        extra := List.filter (fun member => !fieldNames.contains member.1) members }
  | found => .error (.invalidType found "struct Diagnostic")

private def givenMember (key : String) (value : Option Json) : List (String × Json) :=
  (value.map fun value => (key, value)).toList

/-- The diagnostic as a value: the fields that are there, and what else was
sent. -/
def toJson (diagnostic : Diagnostic) : Json :=
  .ofMembers <|
    [("range", diagnostic.range.toJson)] ++
    givenMember "severity" (diagnostic.severityNumber.map fun number => .nat number) ++
    givenMember "code" diagnostic.code ++
    givenMember "source" (diagnostic.source.map .string) ++
    [("message", .string diagnostic.message)] ++ diagnostic.extra

def new (range : Range) (severity : Option Severity) (message : String) : Diagnostic where
  range := range
  severityNumber := severity.map Severity.number
  code := none
  source := none
  message := message
  extra := []

def withSource (diagnostic : Diagnostic) (source : String) : Diagnostic :=
  { diagnostic with source := some source }

/-- The severity; `none` also for a number without one. -/
def severity? (diagnostic : Diagnostic) : Option Severity :=
  diagnostic.severityNumber.bind Severity.ofNumber?

/-- One line for people: `path:line:column: severity: [source] message`, counted
from one.  Without severity a diagnostic counts as a warning. -/
def display (diagnostic : Diagnostic) (path : Path) : String :=
  let start := diagnostic.range.start
  let severity := (diagnostic.severity?.getD .warning).label
  let source := diagnostic.source.getD "unknown"
  s!"{path.display}:{start.line + 1}:{start.character + 1}: {severity}: [{source}] " ++
    diagnostic.message

end Diagnostic

structure Publication where
  uri : String
  version : Option Int
  diagnostics : List Diagnostic
deriving DecidableEq

/-- Reads a publication; one diagnostic at fault makes it unreadable. -/
def Publication.decode : Json.Decoder Publication :=
  Json.decodeRecord3 "PublishDiagnosticsParams" (.required "uri" Json.decodeString)
    (.optional "version" (Json.decodeInt 32))
    (.required "diagnostics" (Json.decodeList Diagnostic.decode)) .mk

/-! ## The latest diagnostics -/

/-- The latest publication of each document, by its URI. -/
structure DiagnosticsCache where
  publications : List (String × Publication)
deriving DecidableEq

namespace DiagnosticsCache

def empty : DiagnosticsCache := ⟨[]⟩

/-- Puts a publication in the place of the one before it.  Its version plays no
part. -/
def update (cache : DiagnosticsCache) (publication : Publication) : DiagnosticsCache :=
  ⟨(publication.uri, publication) ::
    cache.publications.filter fun entry => entry.1 ≠ publication.uri⟩

/-- Why a publication was not taken. -/
inductive PublishError where
  | withoutParams
  | unreadable (error : Json.DecodeError)
deriving DecidableEq

/-- The message of a publication that was not taken. -/
def PublishError.message : PublishError → String
  | .withoutParams => "publishDiagnostics without params"
  | .unreadable error => error.message

def publish (cache : DiagnosticsCache) (params : Option Json) :
    Except PublishError DiagnosticsCache :=
  match params with
  | none => .error .withoutParams
  | some params =>
      match Publication.decode params with
      | .ok publication => .ok (cache.update publication)
      | .error error => .error (.unreadable error)

/-- The latest diagnostics of a document; none if nothing was published. -/
def get (cache : DiagnosticsCache) (uri : String) : List Diagnostic :=
  match cache.publications.find? fun entry => entry.1 = uri with
  | some (_, publication) => publication.diagnostics
  | none => []

end DiagnosticsCache

end LanguageClient

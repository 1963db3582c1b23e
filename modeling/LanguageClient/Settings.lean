import LanguageClient.Message.ResponseError

/-!
# Settings

The answers to requests for configuration.  A section of the settings is named by
the keys that lead to it, with dots between them.
-/

namespace LanguageClient.Settings

def emptySection : Json := .object []

/-- The value that keys lead to, through objects only. -/
def follow? (settings : Json) (keys : List String) : Option Json :=
  keys.foldlM Json.member? settings

def keys (path : String) : List String :=
  (path.toList.splitOn '.').map String.ofList

/-- The settings of a section: all of them if no section or the empty one is
named.  A missing section and a null one count as empty. -/
def lookup (settings : Json) (path : Option String) : Json :=
  let found :=
    match path with
    | none | some "" => some settings
    | some path => follow? settings (keys path)
  match found with
  | none | some .null => emptySection
  | some value => value

/-- Reads the sections that a request asks for. -/
def decodeItems : Json.Decoder (List (Option String)) :=
  Json.decodeRecord1 "ConfigurationParams"
    (.withDefault "items"
      (Json.decodeList
        (Json.decodeRecord1 "ConfigurationItem" (.optional "section" Json.decodeString) id))
      [])
    id

/-- One entry for each section asked for, in order. -/
def answer (settings : Json) (params : Option Json) : Answer :=
  match params with
  | none => .ok (.array [])
  | some params =>
      match decodeItems params with
      | .ok items => .ok (.array (items.map (lookup settings)))
      | .error fault => .error (.invalidParams fault.message)

end LanguageClient.Settings

import LanguageClient.Client.Basic
import LanguageClient.Proofs.Diagnostics.Latest
import LanguageClient.Proofs.FileUri.RoundTrip
import LanguageClient.WorkspaceEdit

/-!
# Diagnostics by path

The diagnostics at a path are looked up under the URI that the path is written as.  A server
may spell the URI of a file in other ways, which all lead an edit to the file; what it
publishes under one of these is not found at the path and changes nothing of what is.
-/

namespace LanguageClient.DiagnosticsCache

/-- The diagnostics that a client finds at a path after the parameters of a history came. -/
def found (client : Client) (history : List (Option Json)) (path : Path) : List Diagnostic :=
  { client with diagnostics := after history }.diagnosticsOf path

/-- What a publication does to the diagnostics at a path, if none comes behind it under the
URI that the path is written as. -/
structure IsFoundAt (client : Client) (earlier : List (Option Json)) (publication : Publication)
    (history : List (Option Json)) (path : Path) (uri : String) : Prop where
  /-- Under this URI its diagnostics are what is found, ... -/
  ownSpelling : publication.uri = uri → found client history path = publication.diagnostics
  /-- ... so they are under the URI of every path with the same components; ... -/
  samePath : ∀ other, FileUri.ofPath? other = some publication.uri →
    other.components = path.components → found client history path = publication.diagnostics
  /-- ... under any other it does not count, even if edits under it are edits of the file. -/
  otherSpelling : publication.uri ≠ uri → found client history path = found client earlier path

section Path

variable {path : Path} {uri : String}

theorem found_eq_get
    (isUri : FileUri.ofPath? path = some uri) (client : Client) (history : List (Option Json)) :
    found client history path = (after history).get uri := by
  simp only [found, Client.diagnosticsOf, Client.uriOf, isUri]

theorem isFoundAt_of_ofPath?
    (isUri : FileUri.ofPath? path = some uri) (client : Client)
    (earlier : List (Option Json)) {later : List (Option Json)} {params : Option Json}
    {publication : Publication} (publishes : Publishes params publication)
    (isLast : ∀ other, other ∈ later →
      ∀ publication', Publishes other publication' → publication'.uri ≠ uri) :
    IsFoundAt client earlier publication (earlier ++ params :: later) path uri := by
  have lookup : (after (earlier ++ params :: later)).get uri =
      ((after earlier).update publication).get uri := by
    rw [after, List.foldl_append, List.foldl_cons, get_foldl_receive_of_ne isLast,
      receive_of_publishes publishes, after]
  have ownSpelling (isOwn : publication.uri = uri) :
      found client (earlier ++ params :: later) path = publication.diagnostics := by
    rw [found_eq_get isUri, lookup, get_update, if_pos isOwn]
  refine {
    ownSpelling := ownSpelling
    samePath := fun other isOther same => ownSpelling ?_
    otherSpelling := fun isOther => ?_ }
  · rw [(FileUri.ofPath?_eq_iff isUri).mpr same] at isOther
    exact (Option.some.inj isOther).symm
  · rw [found_eq_get isUri, found_eq_get isUri, lookup, get_update, if_neg isOther]

/-- Every path from the root has one URI that its diagnostics are found under, and unless the
path leads up, edits under this URI are edits of the path. -/
theorem isFoundAt (absolute : path.isAbsolute = true) :
    ∃ uri, FileUri.ofPath? path = some uri ∧
      (.parent ∉ path.components →
        ∃ back, WorkspaceEdit.target uri = .ok back ∧ back.components = path.components) ∧
      ∀ (client : Client) (earlier later : List (Option Json)) (params : Option Json)
        (publication : Publication), Publishes params publication →
        (∀ other, other ∈ later →
          ∀ publication', Publishes other publication' → publication'.uri ≠ uri) →
        IsFoundAt client earlier publication (earlier ++ params :: later) path uri := by
  have isUri := FileUri.ofPath?_of_isAbsolute absolute
  refine ⟨_, isUri, fun noParent => ?_, fun client earlier later params publication publishes =>
    isFoundAt_of_ofPath? isUri client earlier publishes⟩
  refine ⟨FileUri.pathBack path.steps, ?_, FileUri.components_pathBack_steps absolute noParent⟩
  simp only [WorkspaceEdit.target, FileUri.toPath?_of_ofPath? noParent isUri]

end Path

def publicationOf (uri message : String) : Json :=
  let place : Json := .ofMembers [("line", .nat 0), ("character", .nat 0)]
  .ofMembers
    [("uri", .string uri),
      ("diagnostics", .array
        [.ofMembers [("range", .ofMembers [("start", place), ("end", place)]),
          ("message", .string message)]])]

def diagnosticOf (message : String) : Diagnostic where
  range := ⟨⟨0, 0⟩, ⟨0, 0⟩⟩
  severityNumber := none
  code := none
  source := none
  message := message
  extra := []

theorem publishes_publicationOf (uri message : String) :
    Publishes (some (publicationOf uri message)) ⟨uri, none, [diagnosticOf message]⟩ :=
  ⟨_, rfl, rfl⟩

/-- A publication that is found, with one for another file behind it. -/
theorem isFoundAt_ownSpelling :
    Path.isAbsolute (.ofString "/a b") = true ∧
      Publishes (some (publicationOf "file:///a%20b" "wrong"))
        ⟨"file:///a%20b", none, [diagnosticOf "wrong"]⟩ ∧
      found (.connect { processId := 1 } 64 (.directory []) [])
        [some (publicationOf "file:///a%20b" "wrong"), some (publicationOf "file:///c" "bad")]
        (.ofString "/a b") = [diagnosticOf "wrong"] := by
  have absolute : Path.isAbsolute (.ofString "/a b") = true := by decide +kernel
  have publishes := publishes_publicationOf "file:///a%20b" "wrong"
  obtain ⟨uri, isUri, _, finds⟩ := isFoundAt absolute
  obtain rfl : "file:///a%20b" = uri := Option.some.inj (.trans (by decide +kernel) isUri)
  refine ⟨absolute, publishes, (finds _ [] _ _ _ publishes ?_).ownSpelling rfl⟩
  intro other isLater publication publishes'
  rw [List.mem_singleton.mp isLater] at publishes'
  rw [publishes'.unique (publishes_publicationOf "file:///c" "bad")]
  decide

/-- The file at `/a` is the one that `file:///%61` names, and a publication for it is taken
whose diagnostics are not found at `/a`. -/
theorem not_found_otherSpelling :
    WorkspaceEdit.target "file:///%61" = .ok (.ofString "/a") ∧
      Publishes (some (publicationOf "file:///%61" "wrong"))
        ⟨"file:///%61", none, [diagnosticOf "wrong"]⟩ ∧
      found (.connect { processId := 1 } 64 (.directory []) [])
        [some (publicationOf "file:///%61" "wrong")] (.ofString "/a") = [] := by
  refine ⟨by decide +kernel, publishes_publicationOf _ _, by decide +kernel⟩

end LanguageClient.DiagnosticsCache

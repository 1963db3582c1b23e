import LanguageClient.Settings
import LanguageClient.WorkspaceEdit

/-!
# Handlers of requests

How the client answers the requests of the server.  A handler is called when the
request is read; what is left of its work then goes on by itself.
-/

namespace LanguageClient

inductive RequestHandler where
  /-- Answers from the settings. -/
  | configuration (settings : Json)
  | applyEdit
  /-- Answers null, whatever is asked. -/
  | acknowledge
  /-- A user's handler.  Its calls are recorded under a tag; what it answers, and after how
  many milliseconds, depends on the parameters. -/
  | custom (tag : Json) (response : Option Json → Nat × Answer)

inductive RequestWork where
  | answered (answer : Answer)
  | editing (progress : WorkspaceEdit.Progress)
  | delayed (milliseconds : Nat) (answer : Answer)

namespace RequestHandler

def startEdit (params : Option Json) : RequestWork :=
  match params with
  | none => .answered (.error (.invalidParams "missing params"))
  | some params =>
      match WorkspaceEdit.decodeParams params with
      | .ok edit => .editing (.start edit)
      | .error fault => .answered (.error (.invalidParams fault.message))

/-- The work that a request leaves when its handler has been called. -/
def start (params : Option Json) : RequestHandler → RequestWork
  | .configuration settings => .answered (Settings.answer settings params)
  | .applyEdit => startEdit params
  | .acknowledge => .answered (.ok .null)
  | .custom _ response => .delayed (response params).1 (response params).2

/-- The tag that a call is recorded under, if it is recorded. -/
def tag? : RequestHandler → Option Json
  | .custom tag _ => some tag
  | _ => none

/-- The handler that always answers the same, or else gives the parameters back. -/
def record (tag : Json) (answer : Option Answer) (delay : Nat) : RequestHandler :=
  .custom tag fun params => (delay, answer.getD (.ok (params.getD .null)))

end RequestHandler

namespace WorkspaceEdit.Progress

/-- The number of steps up to the outcome at most. -/
def remaining : Progress → Nat
  | .reading left edited => 2 * left.length + edited.length + 2
  | .writing left _ => left.length + 1
  | .finished _ => 0

/-- Takes steps up to the outcome, as many as there is fuel for, with room for all files. -/
def run : (fuel : Nat) → FileTree → Progress → Progress × FileTree
  | 0, tree, progress => (progress, tree)
  | fuel + 1, tree, progress =>
      let (progress, tree) := progress.step none tree
      run fuel tree progress

end WorkspaceEdit.Progress

namespace RequestWork

/-- The answer that the work comes to if nothing else goes on beside it, and the
files afterwards. -/
def finish (tree : FileTree) : RequestWork → Option Answer × FileTree
  | .answered answer | .delayed _ answer => (some answer, tree)
  | .editing progress =>
      let (progress, tree) := progress.run progress.remaining tree
      (progress.outcome?.map fun outcome => .ok (WorkspaceEdit.resultOf outcome), tree)

end RequestWork

end LanguageClient

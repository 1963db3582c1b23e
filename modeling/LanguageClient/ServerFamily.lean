import LanguageClient.Path
import LanguageClient.Text.Basic

/-!
# Families of servers

A family is told from the path of the executable.  The servers of the TypeScript
family load a project only when one of its files is open.
-/

namespace LanguageClient

inductive ServerFamily where
  | generic
  | typeScript
deriving DecidableEq, Repr

namespace ServerFamily

def typeScriptMark : List Char := "typescript-language-server".toList

def isMarked : List Char → Bool
  | [] => false
  | c :: rest => typeScriptMark.isPrefixOf (c :: rest) || isMarked rest

/-- The family of the server at a path.  Letter case does not count; only ASCII
letters have the letters of the mark as their lower case. -/
def ofExecutable (path : Path) : ServerFamily :=
  if isMarked (Text.lowerAscii path.display.toList) then .typeScript else .generic

def name : ServerFamily → String
  | .generic => "Generic"
  | .typeScript => "TypeScript"

end ServerFamily

end LanguageClient

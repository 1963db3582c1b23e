import LanguageClient.Server.Shell.Arithmetic
import LanguageClient.Server.Shell.Glyph

/-!
# Expansion

What comes out of words: the values of parameters and expressions are put in their
place, and what is not quoted is split into fields.
-/

namespace LanguageClient.Shell

namespace Environment

/-- The arguments all together: as a text, or with gaps between them. -/
def allArguments (environment : Environment) (name : List Char) (isQuoted : Bool) : List Glyph :=
  if name = ['*'] && isQuoted then
    Glyph.quoted ((environment.separators.take 1).intercalate environment.arguments)
  else
    [Glyph.gap].intercalate (environment.arguments.map (Glyph.given · isQuoted))

/-- Whether a name stands for the arguments all together. -/
def isCollective (name : List Char) : Bool := name = ['@'] || name = ['*']

/-- The glyphs of a parameter; `none` if it has no value and should have. -/
def glyphs? (environment : Environment) (name : List Char) (isQuoted : Bool) :
    Option (List Glyph) :=
  if isCollective name then some (environment.allArguments name isQuoted)
  else
    match environment.value? name with
    | some value => some (Glyph.given value isQuoted)
    | none => if environment.mindsMissing then none else some (Glyph.given [] isQuoted)

def present? (environment : Environment) (name : List Char) : Option (List Char) :=
  if isCollective name then
    if environment.arguments.isEmpty then none
    else some ([' '].intercalate environment.arguments)
  else environment.value? name

end Environment

/-- What comes out of some pieces, one after the other. -/
def expandAll (expand : Environment → Piece → Option (List Glyph × Environment)) :
    Environment → Word → Option (List Glyph × Environment)
  | environment, [] => some ([], environment)
  | environment, piece :: rest => do
      let (first, environment) ← expand environment piece
      let (others, environment) ← expandAll expand environment rest
      return (first ++ others, environment)

/-- What comes out of a piece; `none` if that is an error. -/
def expandPiece : (fuel : Nat) → Environment → Piece → Option (List Glyph × Environment)
  | 0, _, _ => none
  | fuel + 1, environment, piece =>
      match piece with
      | .text characters true => some (Glyph.quoted characters, environment)
      | .text characters false =>
          some (characters.map fun c => .character c false false, environment)
      | .given characters isQuoted => some (Glyph.given characters isQuoted, environment)
      | .output _ isQuoted => some (Glyph.given [] isQuoted, environment)
      | .malformed => none
      | .arithmetic expression isQuoted => do
          let word ← Word.ofText? true expression
          let (glyphs, environment) ← expandAll (expandPiece fuel) environment word
          let (value, environment) ← Arithmetic.evaluate? environment (Glyph.characters glyphs)
          return (Glyph.given (toString value).toList isQuoted, environment)
      | .parameter name modifier isQuoted =>
          match modifier with
          | .plain => (environment.glyphs? name isQuoted).map (·, environment)
          | .length => do
              let length :=
                if Environment.isCollective name then environment.arguments.length
                else ((environment.value? name).getD []).length
              return (Glyph.given (Environment.digitsOf length) isQuoted, environment)
          | .instead mark mindsEmpty text => do
              let isMissing :=
                match environment.present? name with
                | none => true
                | some value => mindsEmpty && value.isEmpty
              if !isMissing && mark ≠ '+' then
                return (← environment.glyphs? name isQuoted, environment)
              else if isMissing && mark = '+' then return (Glyph.given [] isQuoted, environment)
              else if mark = '?' then none
              else
                let word ← Word.ofText? isQuoted text
                let (glyphs, environment) ← expandAll (expandPiece fuel) environment word
                let glyphs := glyphs.map Glyph.asGiven
                if mark = '=' then
                  let value := Glyph.characters glyphs
                  return (Glyph.given value isQuoted, ← environment.assign? name value)
                else return (glyphs, environment)
          | .trim isAtEnd isLongest text => do
              let word ← Word.ofText? false text
              let (glyphs, environment) ← expandAll (expandPiece fuel) environment word
              let value := (environment.present? name).getD []
              let value := PatternStep.trim isAtEnd isLongest (PatternStep.ofGlyphs glyphs) value
              return (Glyph.given value isQuoted, environment)

/-- The words inside words are followed no deeper than this. -/
def greatestDepth : Nat := 32

def expandWord (environment : Environment) (word : Word) : Option (List Glyph × Environment) :=
  expandAll (expandPiece greatestDepth) environment word

def expandText (environment : Environment) (word : Word) : Option (List Char × Environment) :=
  (expandWord environment word).map fun (glyphs, environment) =>
    (Glyph.characters glyphs, environment)

def expandFields (environment : Environment) : List Word → Option (List (List Char) × Environment)
  | [] => some ([], environment)
  | word :: rest => do
      let (glyphs, environment) ← expandWord environment word
      let fields := Glyph.splitFields environment.separators none glyphs
      let (others, environment) ← expandFields environment rest
      return (fields ++ others, environment)

/-- Carries out assignments, one after the other. -/
def assignWords (environment : Environment) (assignments : List (List Char × Word)) :
    Option Environment :=
  assignments.foldlM (fun environment assignment => do
    let (value, environment) ← expandText environment assignment.2
    environment.assign? assignment.1 value) environment

/-! ## Output in the place of scripts -/

/-- The first script in a row of words whose output belongs in its place, and whether
it is quoted. -/
def firstScript? (words : List Word) : Option (List Char) :=
  words.flatten.findSome? fun piece =>
    match piece with
    | .output script _ => some script
    | _ => none

/-- Puts output in the place of the first script of a word; tells whether there was
one. -/
def giveToWord (output : List Char) : Word → Word × Bool
  | [] => ([], false)
  | .output _ isQuoted :: rest => (.given output isQuoted :: rest, true)
  | piece :: rest =>
      let (rest, isDone) := giveToWord output rest
      (piece :: rest, isDone)

/-- The same for the first script of several words. -/
def giveToWords (output : List Char) : List Word → List Word
  | [] => []
  | word :: rest =>
      match giveToWord output word with
      | (word, true) => word :: rest
      | (word, false) => word :: giveToWords output rest

namespace Command

def openingWords : Command → List Word
  | .simple assignments words => assignments.map Prod.snd ++ words
  | .redirected redirections _ => redirections.map Redirection.word
  | .each _ (some words) _ => words
  | .choice word .. => [word]
  | _ => []

/-- Other words in the place of those that are expanded before a command begins. -/
def withOpeningWords (words : List Word) : Command → Command
  | .simple assignments others =>
      .simple (assignments.zipWith (fun assignment word => (assignment.1, word)) words)
        ((words.drop assignments.length).take others.length)
  | .redirected redirections command =>
      .redirected (redirections.zipWith (fun redirection word => { redirection with word }) words)
        command
  | .each name (some _) body => .each name (some words) body
  | .choice word patterns body other =>
      .choice (words.head?.getD word) patterns body (withOpeningWords words other)
  | command => command

end Command

end LanguageClient.Shell

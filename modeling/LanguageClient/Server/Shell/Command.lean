import LanguageClient.Server.Shell.Token

/-!
# Commands of a shell

The commands of a script, and how they are read.  A script is read line by line: a
line that is no command ends it, after the lines in front were carried out.
-/

namespace LanguageClient.Shell

structure Redirection where
  descriptor : Nat
  kind : RedirectionKind
  word : Word
deriving DecidableEq, Repr

inductive Command where
  | nothing
  /-- What is no command. -/
  | malformed
  | simple (assignments : List (List Char × Word)) (words : List Word)
  | redirected (redirections : List Redirection) (command : Command)
  | sequence (first second : Command)
  | both (first second : Command)
  | either (first second : Command)
  | negated (command : Command)
  | piped (first second : Command)
  | background (command : Command)
  | subshell (command : Command)
  | branch (condition yes no : Command)
  | loop (isUntil : Bool) (condition body : Command)
  /-- A loop over words, or over the arguments. -/
  | each (name : List Char) (words : Option (List Word)) (body : Command)
  /-- What is done if a word matches one of some patterns, and if it does not. -/
  | choice (word : Word) (patterns : List Word) (body other : Command)
  | function (name : List Char) (body : Command)
deriving DecidableEq, Repr

namespace Command

def success : Command := .simple [] []

/-- What was read of a command that is not compound. -/
structure Parts where
  assignments : List (List Char × Word)
  words : List Word
  redirections : List Redirection

def withRedirections (redirections : List Redirection) (command : Command) : Command :=
  if redirections.isEmpty then command else .redirected redirections command

/-! ## Reserved words -/

def closingWords : List String := ["then", "else", "elif", "fi", "do", "done", "esac", "\x7d"]

/-- The words that may not stand where a command begins. -/
def misplacedWords : List String := "in" :: "!" :: closingWords

def reserved? : List Token → Option String
  | .word word :: _ => word.plain?.map String.ofList
  | _ => none

def expect (word : String) (tokens : List Token) : Option (List Token) :=
  if reserved? tokens = some word then some (tokens.drop 1) else none

def skipLineEnds (tokens : List Token) : List Token :=
  tokens.dropWhile fun token => token = .mark .lineEnd

def endsList (tokens : List Token) : Bool :=
  match tokens with
  | [] | .mark .closing :: _ | .mark .doubleSemicolon :: _ => true
  | tokens => (reserved? tokens).any closingWords.contains

/-! ## Reading -/

def readParts (parts : Parts) : List Token → Option (Parts × List Token)
  | .redirection descriptor kind :: .word word :: rest =>
      readParts { parts with redirections := parts.redirections ++ [⟨descriptor, kind, word⟩] } rest
  | .redirection .. :: _ => none
  | .word word :: rest =>
      match word.assignment?, parts.words with
      | some assignment, [] =>
          readParts { parts with assignments := parts.assignments ++ [assignment] } rest
      | _, _ => readParts { parts with words := parts.words ++ [word] } rest
  | tokens => some (parts, tokens)

def readRedirections : List Token → List Redirection × List Token
  | .redirection descriptor kind :: .word word :: rest =>
      let (redirections, rest) := readRedirections rest
      (⟨descriptor, kind, word⟩ :: redirections, rest)
  | tokens => ([], tokens)

def readWords : List Token → List Word × List Token
  | .word word :: rest =>
      let (words, rest) := readWords rest
      (word :: words, rest)
  | tokens => ([], tokens)

/-- Reads patterns up to the bracket that ends them. -/
def readPatterns : List Token → Option (List Word × List Token)
  | .word word :: .mark .closing :: rest => some ([word], rest)
  | .word word :: .mark .pipe :: rest =>
      (readPatterns rest).map fun (words, rest) => (word :: words, rest)
  | _ => none

def ownNames : List String :=
  [":", ".", "break", "continue", "eval", "exec", "exit", "export", "readonly", "return", "set",
    "shift", "times", "trap", "unset"]

def functionName? : List Token → Option (List Char × List Token)
  | .word word :: .mark .opening :: .mark .closing :: rest =>
      (word.plain?.filter fun name => isName name && !ownNames.contains (String.ofList name)).map
        fun name => (name, rest)
  | _ => none

mutual

def readList : (fuel : Nat) → List Token → Option (Command × List Token)
  | 0, _ => none
  | fuel + 1, tokens => do
      let (first, rest) ← readAndOr fuel (skipLineEnds tokens)
      match rest with
      | .mark .semicolon :: rest | .mark .lineEnd :: rest => readMore fuel first rest
      | .mark .ampersand :: rest => readMore fuel (.background first) rest
      | rest => return (first, rest)

/-- Reads the commands behind another, if the list goes on. -/
def readMore : (fuel : Nat) → Command → List Token → Option (Command × List Token)
  | 0, _, _ => none
  | fuel + 1, first, tokens =>
      let tokens := skipLineEnds tokens
      if endsList tokens then some (first, tokens)
      else (readList fuel tokens).map fun (second, rest) => (.sequence first second, rest)

/-- Reads commands of which each hangs on the success of those in front. -/
def readAndOr : (fuel : Nat) → List Token → Option (Command × List Token)
  | 0, _ => none
  | fuel + 1, tokens => do
      let (first, rest) ← readPipeline fuel tokens
      readAndOrFrom fuel first rest

/-- Goes on behind the first of such commands. -/
def readAndOrFrom : (fuel : Nat) → Command → List Token → Option (Command × List Token)
  | 0, _, _ => none
  | fuel + 1, first, tokens =>
      match tokens with
      | .mark .both :: rest => do
          let (second, rest) ← readPipeline fuel (skipLineEnds rest)
          readAndOrFrom fuel (.both first second) rest
      | .mark .either :: rest => do
          let (second, rest) ← readPipeline fuel (skipLineEnds rest)
          readAndOrFrom fuel (.either first second) rest
      | tokens => some (first, tokens)

def readPipeline : (fuel : Nat) → List Token → Option (Command × List Token)
  | 0, _ => none
  | fuel + 1, tokens =>
      match expect "!" tokens with
      | some rest => (readPiped fuel rest).map fun (command, rest) => (.negated command, rest)
      | none => readPiped fuel tokens

/-- Reads such commands without a negation in front. -/
def readPiped : (fuel : Nat) → List Token → Option (Command × List Token)
  | 0, _ => none
  | fuel + 1, tokens => do
      let (first, rest) ← readCommand fuel tokens
      match rest with
      | .mark .pipe :: rest => do
          let (second, rest) ← readPiped fuel (skipLineEnds rest)
          return (.piped first second, rest)
      | rest => return (first, rest)

def readCommand : (fuel : Nat) → List Token → Option (Command × List Token)
  | 0, _ => none
  | fuel + 1, tokens =>
      match functionName? tokens with
      | some (name, rest) =>
          (readCommand fuel (skipLineEnds rest)).map
            fun (body, rest) => (.function name body, rest)
      | none =>
          match readCompound fuel tokens with
          | some (some (command, rest)) =>
              let (redirections, rest) := readRedirections rest
              some (withRedirections redirections command, rest)
          | some none => do
              let (parts, rest) ← readParts ⟨[], [], []⟩ tokens
              if parts.assignments.isEmpty && parts.words.isEmpty && parts.redirections.isEmpty then
                none
              return (withRedirections parts.redirections (.simple parts.assignments parts.words),
                rest)
          | none => none

/-- Reads a compound command; `some none` if some tokens begin none. -/
def readCompound : (fuel : Nat) → List Token → Option (Option (Command × List Token))
  | 0, _ => none
  | fuel + 1, tokens =>
      match tokens with
      | .mark .opening :: rest =>
          match readList fuel rest with
          | some (body, .mark .closing :: rest) => some (some (.subshell body, rest))
          | _ => none
      | tokens =>
          let rest := tokens.drop 1
          match reserved? tokens with
          | some "\x7b" => do
              let (body, rest) ← readList fuel rest
              let rest ← expect "\x7d" rest
              return some (body, rest)
          | some "if" => (readBranch fuel rest).map some
          | some "while" => (readLoop fuel false rest).map some
          | some "until" => (readLoop fuel true rest).map some
          | some "for" => (readEach fuel rest).map some
          | some "case" =>
              match rest with
              | .word word :: rest => do
                  let rest ← expect "in" (skipLineEnds rest)
                  let (command, rest) ← readChoices fuel word rest
                  return some (command, rest)
              | _ => none
          | some word => if misplacedWords.contains word then none else some none
          | none => some none

/-- Reads what stands behind the beginning of a branch. -/
def readBranch : (fuel : Nat) → List Token → Option (Command × List Token)
  | 0, _ => none
  | fuel + 1, tokens => do
      let (condition, rest) ← readList fuel tokens
      let rest ← expect "then" rest
      let (yes, rest) ← readList fuel rest
      match reserved? rest with
      | some "elif" => do
          let (no, rest) ← readBranch fuel (rest.drop 1)
          return (.branch condition yes no, rest)
      | some "else" => do
          let (no, rest) ← readList fuel (rest.drop 1)
          let rest ← expect "fi" rest
          return (.branch condition yes no, rest)
      | _ => do
          let rest ← expect "fi" rest
          return (.branch condition yes success, rest)

/-- Reads what stands behind the beginning of a loop. -/
def readLoop : (fuel : Nat) → (isUntil : Bool) → List Token → Option (Command × List Token)
  | 0, _, _ => none
  | fuel + 1, isUntil, tokens => do
      let (condition, rest) ← readList fuel tokens
      let rest ← expect "do" rest
      let (body, rest) ← readList fuel rest
      let rest ← expect "done" rest
      return (.loop isUntil condition body, rest)

/-- Reads what stands behind the beginning of a loop over words. -/
def readEach : (fuel : Nat) → List Token → Option (Command × List Token)
  | 0, _ => none
  | fuel + 1, tokens =>
      match tokens with
      | .word word :: rest => do
          let name ← word.plain?.filter isName
          let (words, rest) :=
            match expect "in" (skipLineEnds rest) with
            | some rest =>
                let (words, rest) := readWords rest
                (some words, rest)
            | none => (none, rest)
          let rest :=
            match rest with
            | .mark .semicolon :: rest => rest
            | rest => rest
          let rest ← expect "do" (skipLineEnds rest)
          let (body, rest) ← readList fuel rest
          let rest ← expect "done" rest
          return (.each name words body, rest)
      | _ => none

def readChoices : (fuel : Nat) → Word → List Token → Option (Command × List Token)
  | 0, _, _ => none
  | fuel + 1, word, tokens =>
      let tokens := skipLineEnds tokens
      match expect "esac" tokens with
      | some rest => some (success, rest)
      | none => do
          let tokens := if tokens.head? = some (.mark .opening) then tokens.drop 1 else tokens
          let (patterns, rest) ← readPatterns tokens
          let rest := skipLineEnds rest
          let (body, rest) ←
            if endsList rest then some (success, rest) else readList fuel rest
          match rest with
          | .mark .doubleSemicolon :: rest => do
              let (other, rest) ← readChoices fuel word rest
              return (.choice word patterns body other, rest)
          | rest => do
              let rest ← expect "esac" rest
              return (.choice word patterns body success, rest)

end

def readLine : (fuel : Nat) → List Token → Option (Command × List Token)
  | 0, _ => none
  | fuel + 1, tokens => do
      let (first, rest) ← readAndOr (8 * tokens.length + 8) tokens
      let (first, rest) : Command × List Token :=
        match rest with
        | .mark .ampersand :: rest => (.background first, .mark .semicolon :: rest)
        | rest => (first, rest)
      match rest with
      | [] | [.mark .semicolon] => return (first, [])
      | .mark .lineEnd :: rest | .mark .semicolon :: .mark .lineEnd :: rest => return (first, rest)
      | .mark .semicolon :: rest => do
          let (second, rest) ← readLine fuel rest
          return (.sequence first second, rest)
      | _ => none

def readLines : (fuel : Nat) → List Token → Command
  | 0, _ => .nothing
  | fuel + 1, tokens =>
      match skipLineEnds tokens with
      | [] => .nothing
      | tokens =>
          match readLine (tokens.length + 1) tokens with
          | none => .malformed
          | some (command, rest) => .sequence command (readLines fuel rest)

def ofScript (script : List Char) : Command :=
  let tokens := tokensOf script
  readLines (tokens.length + 1) tokens

end Command

end LanguageClient.Shell

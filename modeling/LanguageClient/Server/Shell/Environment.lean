import LanguageClient.Server.Shell.Command

/-!
# What a shell keeps in mind
-/

namespace LanguageClient.Shell

structure Environment where
  bindings : List (List Char × List Char)
  /-- The variables that keep their value. -/
  fixed : List (List Char)
  /-- The number by which the script knows its process. -/
  process : Nat
  /-- The name of the script. -/
  name : List Char
  arguments : List (List Char)
  /-- The status of the last command. -/
  status : Nat
  functions : List (List Char × Command)
  /-- What is done at a signal, by its number, or, under number zero, at the end; at an
  empty script the signal is passed over. -/
  traps : List (Nat × List Char)
  /-- Ends at a command that fails. -/
  stopsAtFailure : Bool
  /-- A parameter without value is an error. -/
  mindsMissing : Bool

namespace Environment

def lookup? {α : Type} (key : List Char) (entries : List (List Char × α)) : Option α :=
  (entries.find? fun entry => entry.1 = key).map Prod.snd

def stored? (environment : Environment) (name : List Char) : Option (List Char) :=
  lookup? name environment.bindings

def digitsOf (number : Nat) : List Char := (toString number).toList

/-- The value of a parameter other than the arguments all together. -/
def value? (environment : Environment) (name : List Char) : Option (List Char) :=
  match name with
  | ['?'] => some (digitsOf environment.status)
  | ['#'] => some (digitsOf environment.arguments.length)
  | ['$'] => some (digitsOf environment.process)
  | ['!'] => none
  | ['-'] =>
      some ((if environment.mindsMissing then ['u'] else []) ++
        if environment.stopsAtFailure then ['e'] else [])
  | ['0'] => some environment.name
  | c :: rest =>
      if c.isDigit then
        ((String.ofList (c :: rest)).toNat?.bind fun number =>
          if number = 0 then some environment.name else environment.arguments[number - 1]?)
      else environment.stored? name
  | [] => none

def forget (environment : Environment) (name : List Char) : Environment :=
  { environment with bindings := environment.bindings.filter fun entry => entry.1 ≠ name }

/-- Gives a variable a value, unless it keeps the one that it has. -/
def assign? (environment : Environment) (name value : List Char) : Option Environment :=
  if environment.fixed.contains name then none
  else
    let others := environment.bindings.filter fun entry => entry.1 ≠ name
    some { environment with bindings := (name, value) :: others }

/-- The characters that separate fields if no others were chosen. -/
def usualSeparators : List Char := [' ', '\t', '\n']

def separators (environment : Environment) : List Char :=
  (environment.stored? ['I', 'F', 'S']).getD usualSeparators

def trap? (environment : Environment) (number : Nat) : Option (List Char) :=
  (environment.traps.find? fun entry => entry.1 = number).map Prod.snd

def setTrap (environment : Environment) (number : Nat) (action : Option (List Char)) :
    Environment :=
  let others := environment.traps.filter fun entry => entry.1 ≠ number
  { environment with traps := (action.map (number, ·)).toList ++ others }

/-- What the shell of a part of a script keeps in mind: of the traps, no more than
which signals are passed over. -/
def inSubshell (environment : Environment) : Environment :=
  { environment with traps := environment.traps.filter fun entry => entry.2.isEmpty }

def inScript (environment : Environment) (name : List Char) (arguments : List (List Char)) :
    Environment :=
  { environment.inSubshell with
    fixed := [], name, arguments, status := 0, functions := [],
    stopsAtFailure := false, mindsMissing := false }

end Environment

end LanguageClient.Shell

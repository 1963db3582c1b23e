import LanguageClient.Server.Sample
import LanguageClient.Server.Shell.Condition
import LanguageClient.Server.Shell.Format

/-!
# Programs that a script runs

The programs a script finds on every system, as far as a server may need them.
-/

namespace LanguageClient.Shell

/-- A program that runs by itself. -/
inductive Task where
  /-- Writes all that it reads. -/
  | copy
  /-- Writes the first bytes of what it reads. -/
  | copyBytes (count : Nat)
  /-- Writes the first lines of what it reads. -/
  | copyLines (count : Nat)
  /-- Writes something and ends. -/
  | write (bytes : List UInt8) (status : Nat)
  | pause (milliseconds : Nat)
  /-- Does nothing up to a time. -/
  | pauseUntil (time : Nat)
  /-- Does nothing for ever. -/
  | idle
  | serve (sample : RunningSample)
deriving DecidableEq, Repr

namespace Task

/-- The bytes up to the end of a number of lines, and how many of them are missing. -/
def firstLines : (count : Nat) → List UInt8 → List UInt8 × Nat
  | count, [] => ([], count)
  | 0, _ => ([], 0)
  | count + 1, byte :: rest =>
      let (first, missing) := firstLines (if byte = lineFeed then count else count + 1) rest
      (byte :: first, missing)

def pass (outlook : Outlook) (part : List UInt8) (next : Task) : ProgramTurn Task :=
  if part.isEmpty || outlook.takesBytes then
    .goesOn (.takes outlook.held.length :: Deed.writing part) next
  else .ends [] (.signalled .brokenPipe)

def turn (outlook : Outlook) : Task → ProgramTurn Task
  | .copy =>
      if !outlook.held.isEmpty then pass outlook outlook.held .copy
      else if outlook.isClosed then .ends [] (.code 0)
      else .waits
  | .copyBytes 0 | .copyLines 0 => .ends [] (.code 0)
  | .copyBytes count =>
      let part := outlook.held.take count
      if !part.isEmpty then
        if outlook.takesBytes then
          .goesOn [.takes part.length, .writes part] (.copyBytes (count - part.length))
        else .ends [] (.signalled .brokenPipe)
      else if outlook.isClosed then .ends [] (.code 0)
      else .waits
  | .copyLines count =>
      if !outlook.held.isEmpty then
        let (part, missing) := firstLines count outlook.held
        pass outlook part (.copyLines missing)
      else if outlook.isClosed then .ends [] (.code 0)
      else .waits
  | .write bytes status =>
      if bytes.isEmpty || outlook.takesBytes then .ends (Deed.writing bytes) (.code status)
      else .ends [] (.signalled .brokenPipe)
  | .pause milliseconds => .goesOn [] (.pauseUntil (outlook.now + milliseconds))
  | .pauseUntil time => if time ≤ outlook.now then .ends [] (.code 0) else .waits
  | .idle => .waits
  | .serve sample =>
      match sample.turn outlook with
      | .waits => .waits
      | .goesOn deeds next => .goesOn deeds (.serve next)
      | .ends deeds status => .ends deeds status

end Task

/-! ## Utilities -/

def thousandths (digits : List Char) : Nat :=
  ((digits ++ ['0', '0', '0']).take 3).foldl (fun value c => value * 10 + (c.toNat - '0'.toNat)) 0

def unit? : List Char → Option Nat
  | [] | ['s'] => some 1
  | ['m'] => some 60
  | ['h'] => some 3600
  | ['d'] => some 86400
  | _ => none

/-- The milliseconds of a time with a unit, which are seconds if there is none. -/
def milliseconds? (text : List Char) : Option Nat := do
  let (whole, rest) := text.span Char.isDigit
  let (fraction, rest) :=
    match rest with
    | '.' :: rest => rest.span Char.isDigit
    | rest => ([], rest)
  if whole.isEmpty && fraction.isEmpty then none
  let unit ← unit? rest
  return unit * (((String.ofList whole).toNat?.getD 0) * 1000 + thousandths fraction)

/-- The program that waits for some times; a time that is none is an error. -/
def sleepTask (arguments : List (List Char)) : Task :=
  if arguments.isEmpty then .write [] 1
  else if arguments.contains (charactersOfText "infinity") then .idle
  else
    match arguments.mapM milliseconds? with
    | some times => .pause (times.foldr (· + ·) 0)
    | none => .write [] 1

def fileBytes? (outlook : Outlook) (name : List Char) : Option (List UInt8) :=
  if name = charactersOfText "/dev/null" then some []
  else (outlook.files.read outlook.directory ⟨bytesOf name⟩).toOption

/-- The program that writes files one after the other, or what it reads. -/
def catTask (outlook : Outlook) (arguments : List (List Char)) : Task :=
  let names := arguments.filter fun argument => argument.head? ≠ some '-'
  if names.isEmpty then .copy
  else
    let contents := names.map (fileBytes? outlook)
    .write (contents.flatMap fun content => content.getD [])
      (if contents.all Option.isSome then 0 else 1)

/-- The program that writes the first lines or bytes of what it reads. -/
def headTask (outlook : Outlook) (arguments : List (List Char)) : Task :=
  let amount := fun (digits : List Char) => (String.ofList digits).toNat?
  let read := fun (task : Task) (part : List UInt8 → List UInt8) (names : List (List Char)) =>
    match names with
    | [] => task
    | names =>
        let contents := names.map (fileBytes? outlook)
        Task.write (contents.flatMap fun content => part (content.getD []))
          (if contents.all Option.isSome then 0 else 1)
  let bytes := fun (count : Nat) => read (.copyBytes count) (List.take count)
  let lines := fun (count : Nat) => read (.copyLines count) fun content =>
    (Task.firstLines count content).1
  match arguments with
  | ['-', 'c'] :: count :: names => ((amount count).map (bytes · names)).getD (.write [] 1)
  | ['-', 'n'] :: count :: names => ((amount count).map (lines · names)).getD (.write [] 1)
  | ('-' :: 'c' :: count) :: names => ((amount count).map (bytes · names)).getD (.write [] 1)
  | ('-' :: 'n' :: count) :: names => ((amount count).map (lines · names)).getD (.write [] 1)
  | ('-' :: count) :: names => ((amount count).map (lines · names)).getD (.write [] 1)
  | names => lines 10 names

/-- The output of the program `echo`, which replaces escapes only when it is told. -/
def plainEchoed (arguments : List (List Char)) : List Char :=
  match arguments with
  | ['-', 'n'] :: rest => [' '].intercalate rest
  | ['-', 'e'] :: rest => echoed rest
  | arguments => [' '].intercalate arguments ++ ['\n']

def testsFile (outlook : Outlook) (letter : Char) (name : List Char) : Bool :=
  if name = charactersOfText "/dev/null" then ['e', 'c', 'r', 'w'].contains letter
  else
    match outlook.files.locate outlook.directory ⟨bytesOf name⟩ with
    | .error _ => false
    | .ok place =>
        match letter, place.tree with
        | 'd', tree => tree.isDirectory
        | 'f', tree => !tree.isDirectory
        | 'x', tree => tree.isDirectory || tree.isExecutable
        | 's', .file content _ => !content.isEmpty
        | letter, _ => ['e', 's', 'r', 'w', 'O', 'G'].contains letter

def utility? (outlook : Outlook) (name : String) (arguments : List (List Char)) : Option Task :=
  match name with
  | "cat" => some (catTask outlook arguments)
  | "tee" => some .copy
  | "sleep" => some (sleepTask arguments)
  | "true" => some (.write [] 0)
  | "false" => some (.write [] 1)
  | "echo" => some (.write (bytesOf (plainEchoed arguments)) 0)
  | "printf" =>
      match arguments with
      | [] => some (.write [] 1)
      | format :: arguments =>
          let (output, status) := printed format arguments
          some (.write (bytesOf output) (min status 1))
  | "head" => some (headTask outlook arguments)
  | "test" => some (.write [] (Condition.status (testsFile outlook) arguments))
  | "[" =>
      some (.write [] (if arguments.getLast? = some [']'] then
        Condition.status (testsFile outlook) arguments.dropLast else 2))
  | _ => none

def shellNames : List String := ["sh", "dash", "bash"]

def utilityNames : List String :=
  ["cat", "tee", "sleep", "true", "false", "echo", "printf", "head", "test", "[", "env"] ++ shellNames

def utilityDirectories : List String := ["/bin/", "/usr/bin/"]

/-- The name of the utility that a path leads to; `some none` if it leads to a
directory of utilities, but to none. -/
def utilityAt? (path : List Char) : Option (Option String) :=
  (utilityDirectories.find? fun directory => directory.toList.isPrefixOf path).map
    fun directory =>
      let name := String.ofList (path.drop directory.length)
      if utilityNames.contains name then some name else none

/-! ## Finding programs -/

inductive Found where
  | utility (name : String)
  | file (tree : FileTree) (path : List Char)
  /-- What may not be executed. -/
  | refused
  | missing

def foundAt (outlook : Outlook) (path : List Char) : Found :=
  match utilityAt? path with
  | some (some name) => .utility name
  | some none => .missing
  | none =>
      match outlook.files.locate outlook.directory ⟨bytesOf path⟩ with
      | .error _ => .missing
      | .ok place => if place.tree.isExecutable then .file place.tree path else .refused

/-- What a name leads to in the first of some directories in which it leads to
something. -/
def foundIn (outlook : Outlook) (name : List Char) : List (List Char) → Found
  | [] => .missing
  | directory :: rest =>
      let path := if directory.isEmpty then name else directory ++ '/' :: name
      match foundAt outlook path, foundIn outlook name rest with
      | .missing, found => found
      | .refused, .missing => .refused
      | .refused, found => found
      | found, _ => found

/-- What the name of a command leads to: a path by itself, any other name in the
directories of the search path. -/
def find (outlook : Outlook) (searchPath name : List Char) : Found :=
  if name.contains '/' then foundAt outlook name
  else foundIn outlook name (searchPath.splitOn ':')

/-! ## Interpreters -/

/-- A blank between the name of an interpreter and its argument. -/
def isInterpreterBlank (byte : UInt8) : Bool := byte = 0x20 || byte = 0x09

/-- The interpreter that the first line of a file names, with its argument. -/
def interpreter? (content : List UInt8) : Option (List Char × List (List Char)) :=
  match content with
  | 0x23 :: 0x21 :: rest =>
      let line := (rest.takeWhile (· != lineFeed)).dropWhile isInterpreterBlank
      let (name, behind) := line.span (!isInterpreterBlank ·)
      let argument := ((behind.dropWhile isInterpreterBlank).reverse.dropWhile
        isInterpreterBlank).reverse
      if name.isEmpty then none
      else
        some (charactersOf name, if argument.isEmpty then [] else [charactersOf argument])
  | _ => none

end LanguageClient.Shell

import LanguageClient.Server.Shell.Environment

/-!
# Conditions

The tests of texts, numbers and files.
-/

namespace LanguageClient.Shell.Condition

/-- The number that an argument is: digits with a sign in front and blanks around
them. -/
def number? (text : List Char) : Option Int :=
  let isSpace := Char.isWhitespace
  let text := ((text.dropWhile isSpace).reverse.dropWhile isSpace).reverse
  let (isNegative, digits) :=
    match text with
    | '-' :: digits => (true, digits)
    | '+' :: digits => (false, digits)
    | digits => (false, digits)
  if digits.isEmpty || !digits.all Char.isDigit then none
  else
    (String.ofList digits).toNat?.map fun value => if isNegative then -(value : Int) else value

/-- The test of a pair of arguments; `none` if there is none of its name, `some none` if
the arguments are none for it. -/
def binary? (operation : List Char) (x y : List Char) : Option (Option Bool) :=
  let compare := fun (holds : Int → Int → Bool) => do
    return holds (← number? x) (← number? y)
  match String.ofList operation with
  | "=" => some (some (x = y))
  | "!=" => some (some (x ≠ y))
  | "<" => some (some (compareOfLessAndEq x y = .lt))
  | ">" => some (some (compareOfLessAndEq y x = .lt))
  | "-eq" => some (compare fun x y => x = y)
  | "-ne" => some (compare fun x y => x ≠ y)
  | "-lt" => some (compare fun x y => x < y)
  | "-le" => some (compare fun x y => x ≤ y)
  | "-gt" => some (compare fun x y => y < x)
  | "-ge" => some (compare fun x y => y ≤ x)
  | "-nt" | "-ot" | "-ef" => some (some false)
  | _ => none

def fileTests : List Char := "bcdefghkprsuwxGLOS".toList

structure Reading where
  value : Bool
  rest : List (List Char)

mutual

def readEither (files : Char → List Char → Bool) :
    (fuel : Nat) → List (List Char) → Option Reading
  | 0, _ => none
  | fuel + 1, arguments => do
      let first ← readBoth files fuel arguments
      match first.rest with
      | ['-', 'o'] :: rest => do
          let second ← readEither files fuel rest
          return { second with value := first.value || second.value }
      | _ => return first

def readBoth (files : Char → List Char → Bool) :
    (fuel : Nat) → List (List Char) → Option Reading
  | 0, _ => none
  | fuel + 1, arguments => do
      let first ← readNegated files fuel arguments
      match first.rest with
      | ['-', 'a'] :: rest => do
          let second ← readBoth files fuel rest
          return { second with value := first.value && second.value }
      | _ => return first

def readNegated (files : Char → List Char → Bool) :
    (fuel : Nat) → List (List Char) → Option Reading
  | 0, _ => none
  | fuel + 1, arguments =>
      match arguments with
      | ['!'] :: next :: rest => do
          if rest.length = 1 && (binary? next [] []).isSome then
            readPrimary files fuel arguments
          else
            let inside ← readNegated files fuel (next :: rest)
            return { inside with value := !inside.value }
      | arguments => readPrimary files fuel arguments

/-- Reads a condition without parts. -/
def readPrimary (files : Char → List Char → Bool) :
    (fuel : Nat) → List (List Char) → Option Reading
  | 0, _ => none
  | fuel + 1, arguments =>
      match arguments with
      | [] => none
      | [text] => some ⟨!text.isEmpty, []⟩
      | first :: second :: others =>
          match others.head?.bind (binary? second first) with
          | some result => result.map fun value => ⟨value, others.drop 1⟩
          | none =>
              match first with
              | ['('] => do
                  let inside ← readEither files fuel (second :: others)
                  match inside.rest with
                  | [')'] :: rest => return { inside with rest }
                  | _ => none
              | ['-', 'n'] => some ⟨!second.isEmpty, others⟩
              | ['-', 'z'] => some ⟨second.isEmpty, others⟩
              | ['-', 't'] => some ⟨false, others⟩
              | ['-', letter] =>
                  if fileTests.contains letter then some ⟨files letter second, others⟩
                  else some ⟨true, second :: others⟩
              | first => some ⟨!first.isEmpty, second :: others⟩

end

def status (files : Char → List Char → Bool) (arguments : List (List Char)) : Nat :=
  if arguments.isEmpty then 1
  else
    match readEither files (4 * arguments.length + 4) arguments with
    | some ⟨value, []⟩ => if value then 0 else 1
    | _ => 2

end LanguageClient.Shell.Condition

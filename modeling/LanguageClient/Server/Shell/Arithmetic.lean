import LanguageClient.Server.Shell.Environment

/-!
# Arithmetic of a shell

Expressions over whole numbers of 64 bits, with variables and assignments.
-/

namespace LanguageClient.Shell.Arithmetic

inductive Token where
  | number (value : Int)
  | name (characters : List Char)
  | mark (text : String)
deriving DecidableEq, Repr

def valueOf (base : Nat) (digits : List Char) : Option Nat :=
  digits.foldlM (fun value c =>
    let digit? :=
      if c.isDigit then some (c.toNat - '0'.toNat)
      else if c.isAlpha then some (c.toLower.toNat - 'a'.toNat + 10)
      else none
    (digit?.filter (· < base)).map (value * base + ·)) 0

/-- The number that some characters write in the base eight, sixteen or ten. -/
def number? : List Char → Option Nat
  | [] => none
  | '0' :: x :: digits =>
      if x = 'x' || x = 'X' then if digits.isEmpty then none else valueOf 16 digits
      else valueOf 8 (x :: digits)
  | digits => valueOf 10 digits

/-- The number that a text is, with blanks and a sign in front. -/
def signed? (text : List Char) : Option Int :=
  match text.dropWhile Char.isWhitespace with
  | '-' :: digits => (number? digits).map fun value => -(value : Int)
  | '+' :: digits => (number? digits).map Int.ofNat
  | digits => (number? digits).map Int.ofNat

/-- The marks of expressions, longer ones first. -/
def marks : List String := [
    "<<=", ">>=", "||", "&&", "==", "!=", "<=", ">=", "<<", ">>", "+=", "-=", "*=", "/=", "%=",
    "&=", "|=", "^=", "+", "-", "*", "/", "%", "<", ">", "!", "~", "&", "^", "|", "?", ":", "=",
    "(", ")"
]

def readTokens : (fuel : Nat) → List Char → Option (List Token)
  | 0, _ => none
  | _ + 1, [] => some []
  | fuel + 1, c :: rest =>
      let text := c :: rest
      if c.isWhitespace then readTokens fuel rest
      else if c.isDigit then do
        let (digits, behind) := text.span isNameCharacter
        let value ← number? digits
        return .number value :: (← readTokens fuel behind)
      else if isNameStart c then do
        let (name, behind) := text.span isNameCharacter
        return .name name :: (← readTokens fuel behind)
      else do
        let mark ← marks.find? fun mark => mark.toList.isPrefixOf text
        return .mark mark :: (← readTokens fuel (text.drop mark.length))

def ofBool (value : Bool) : Int := if value then 1 else 0

def onBits (operation : BitVec 64 → BitVec 64 → BitVec 64) (x y : Int) : Int :=
  (operation (.ofInt 64 x) (.ofInt 64 y)).toInt

/-- The number of 64 bits that a number is modulo their count of values. -/
def wrap (value : Int) : Int := (BitVec.ofInt 64 value).toInt

def result? (operation : String) (x y : Int) : Option Int :=
  match operation with
  | "||" => some (ofBool (x ≠ 0 || y ≠ 0))
  | "&&" => some (ofBool (x ≠ 0 && y ≠ 0))
  | "|" => some (onBits (· ||| ·) x y)
  | "^" => some (onBits (· ^^^ ·) x y)
  | "&" => some (onBits (· &&& ·) x y)
  | "==" => some (ofBool (x = y))
  | "!=" => some (ofBool (x ≠ y))
  | "<" => some (ofBool (x < y))
  | ">" => some (ofBool (y < x))
  | "<=" => some (ofBool (x ≤ y))
  | ">=" => some (ofBool (y ≤ x))
  | "<<" => some ((BitVec.ofInt 64 x <<< (y.toNat % 64)).toInt)
  | ">>" => some ((BitVec.ofInt 64 x).sshiftRight (y.toNat % 64)).toInt
  | "+" => some (wrap (x + y))
  | "-" => some (wrap (x - y))
  | "*" => some (wrap (x * y))
  | "/" => if y = 0 then none else some (wrap (x.tdiv y))
  | "%" => if y = 0 then none else some (wrap (x.tmod y))
  | _ => none

/-- The operations, those that bind less first. -/
def levels : List (List String) := [
    ["||"], ["&&"], ["|"], ["^"], ["&"], ["==", "!="], ["<", ">", "<=", ">="], ["<<", ">>"],
    ["+", "-"], ["*", "/", "%"]
]

/-- The operation of an assignment; `none` if it just replaces the value. -/
def assignment? (mark : String) : Option (Option String) :=
  if mark = "=" then some none
  else if ["<<=", ">>=", "+=", "-=", "*=", "/=", "%=", "&=", "|=", "^="].contains mark then
    some (some (String.ofList mark.toList.dropLast))
  else none

/-- The value of a variable; a missing or an empty one counts as zero. -/
def named? (environment : Environment) (name : List Char) : Option Int :=
  match environment.stored? name with
  | none | some [] => some 0
  | some value => signed? value

structure Reading where
  value : Int
  environment : Environment
  rest : List Token

mutual

def readExpression : (fuel : Nat) → Environment → List Token → Option Reading
  | 0, _, _ => none
  | fuel + 1, environment, tokens => do
      match tokens with
      | .name name :: .mark mark :: rest =>
          match assignment? mark with
          | some operation => do
              let reading ← readExpression fuel environment rest
              let value ←
                match operation with
                | none => some reading.value
                | some operation => do
                    result? operation (← named? environment name) reading.value
              let text := (toString value).toList
              let environment ← reading.environment.assign? name text
              return ⟨value, environment, reading.rest⟩
          | none => readConditional fuel environment tokens
      | tokens => readConditional fuel environment tokens

def readConditional : (fuel : Nat) → Environment → List Token → Option Reading
  | 0, _, _ => none
  | fuel + 1, environment, tokens => do
      let condition ← readOperations fuel levels environment tokens
      match condition.rest with
      | .mark "?" :: rest => do
          let yes ← readExpression fuel condition.environment rest
          match yes.rest with
          | .mark ":" :: rest => do
              let no ← readConditional fuel yes.environment rest
              return { no with value := if condition.value ≠ 0 then yes.value else no.value }
          | _ => none
      | _ => return condition

def readOperations : (fuel : Nat) → List (List String) → Environment → List Token → Option Reading
  | 0, _, _, _ => none
  | fuel + 1, [], environment, tokens => readOperand fuel environment tokens
  | fuel + 1, level :: others, environment, tokens => do
      let first ← readOperations fuel others environment tokens
      readOperationsFrom fuel level others first

def readOperationsFrom :
    (fuel : Nat) → List String → List (List String) → Reading → Option Reading
  | 0, _, _, _ => none
  | fuel + 1, level, others, first =>
      match first.rest with
      | .mark operation :: rest =>
          if level.contains operation then do
            let second ← readOperations fuel others first.environment rest
            let value ← result? operation first.value second.value
            readOperationsFrom fuel level others { second with value }
          else some first
      | _ => some first

def readOperand : (fuel : Nat) → Environment → List Token → Option Reading
  | 0, _, _ => none
  | fuel + 1, environment, tokens =>
      match tokens with
      | .number value :: rest => some ⟨value, environment, rest⟩
      | .name name :: rest => (named? environment name).map fun value => ⟨value, environment, rest⟩
      | .mark "(" :: rest => do
          let inside ← readExpression fuel environment rest
          match inside.rest with
          | .mark ")" :: rest => return { inside with rest }
          | _ => none
      | .mark sign :: rest => do
          let operand ← readOperand fuel environment rest
          match sign with
          | "+" => return operand
          | "-" => return { operand with value := wrap (-operand.value) }
          | "!" => return { operand with value := ofBool (operand.value = 0) }
          | "~" => return { operand with value := -operand.value - 1 }
          | _ => none
      | [] => none

end

/-- The value of an expression and the variables behind it; `none` if it is none. -/
def evaluate? (environment : Environment) (expression : List Char) :
    Option (Int × Environment) := do
  let tokens ← readTokens (expression.length + 1) expression
  let reading ← readExpression (16 * (tokens.length + 2)) environment tokens
  if reading.rest.isEmpty then some (reading.value, reading.environment) else none

end LanguageClient.Shell.Arithmetic

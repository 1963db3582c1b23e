import LanguageClient.Frame.Reader
import Mathlib.Data.List.Induction
import Mathlib.Data.List.TakeDrop
import Mathlib.Data.List.TakeWhile
import Mathlib.Data.Nat.Digits.Defs

/-!
# Blocks of a stream

What a stream of frames is made of.  A block is a number of header lines, a
blank line and as many bytes as the header lines say.  The meaning of a line is
given as a relation, apart from the reader, and the reader's classification is
shown to agree with it.
-/

namespace LanguageClient.Frame

/-! ## The meaning of a line -/

/-- A number of sixty-four bits in decimal digits, with a plus sign or none. -/
def DenotesLength (text : List Char) (value : Nat) : Prop :=
  ∃ digits,
    (text = digits ∨ text = '+' :: digits) ∧ digits ≠ [] ∧
      (∀ digit, digit ∈ digits → digit.isDigit = true) ∧
      value = Nat.ofDigits 10 (digits.reverse.map fun digit => digit.toNat - '0'.toNat) ∧
      value ≤ greatestLength

/-- The key of the header that gives the length, in any case of its letters. -/
def IsLengthKey (key : List Char) : Prop :=
  Text.lowerAscii (Text.trimBlanks key) = lengthHeader

/-- What a line means.  Of a line with a colon the first one ends the key. -/
inductive Denotes : List UInt8 → HeaderLine → Prop
  | notUtf8 {line : List UInt8} :
      Text.Utf8.decode? line = none →
      Denotes line (.faulty (.notUtf8 (Text.Utf8.decodeLossy line)))
  | blank {line : List UInt8} {text : String} :
      Text.Utf8.decode? line = some text →
      Text.trimBlanks text.toList = [] →
      Denotes line .blank
  | withoutColon {line : List UInt8} {text : String} {trimmed : List Char} :
      Text.Utf8.decode? line = some text →
      Text.trimBlanks text.toList = trimmed →
      trimmed ≠ [] →
      ':' ∉ trimmed →
      Denotes line (.faulty (.withoutColon (String.ofList trimmed)))
  | length {line : List UInt8} {text : String} {key value : List Char} {number : Nat} :
      Text.Utf8.decode? line = some text →
      Text.trimBlanks text.toList = key ++ ':' :: value →
      ':' ∉ key →
      IsLengthKey key →
      DenotesLength (Text.trimBlanks value) number →
      Denotes line (.length number)
  | invalidLength {line : List UInt8} {text : String} {key value : List Char} :
      Text.Utf8.decode? line = some text →
      Text.trimBlanks text.toList = key ++ ':' :: value →
      ':' ∉ key →
      IsLengthKey key →
      (∀ number, ¬ DenotesLength (Text.trimBlanks value) number) →
      Denotes line (.faulty (.invalidLength (String.ofList (Text.trimBlanks value))))
  | other {line : List UInt8} {text : String} {key value : List Char} :
      Text.Utf8.decode? line = some text →
      Text.trimBlanks text.toList = key ++ ':' :: value →
      ':' ∉ key →
      ¬ IsLengthKey key →
      Denotes line .other

private theorem decimal_eq_ofDigits
    (digits : List Char) :
    digits.foldl (fun value digit => value * 10 + (digit.toNat - '0'.toNat)) 0 =
      Nat.ofDigits 10 (digits.reverse.map fun digit => digit.toNat - '0'.toNat) := by
  induction digits using List.reverseRecOn with
  | nil => rfl
  | append_singleton digits last inductionHypothesis =>
      rw [List.foldl_append, inductionHypothesis]
      simp [Nat.ofDigits_cons, Nat.mul_comm, Nat.add_comm]

/-- What `parseLength?` makes of the digits, once the sign is gone. -/
private def parseDigits? (digits : List Char) : Option Nat :=
  if digits.isEmpty || !digits.all Char.isDigit then none
  else
    let value := digits.foldl (fun value digit => value * 10 + (digit.toNat - '0'.toNat)) 0
    if value ≤ greatestLength then some value else none

private theorem parseDigits?_eq_some_iff
    (digits : List Char) (value : Nat) :
    parseDigits? digits = some value ↔
      digits ≠ [] ∧ (∀ digit, digit ∈ digits → digit.isDigit = true) ∧
        value = Nat.ofDigits 10 (digits.reverse.map fun digit => digit.toNat - '0'.toNat) ∧
        value ≤ greatestLength := by
  unfold parseDigits?
  rw [← decimal_eq_ofDigits]
  by_cases empty : digits = []
  · simp [empty]
  · by_cases numeric : digits.all Char.isDigit = true
    · have each : ∀ digit, digit ∈ digits → digit.isDigit = true :=
        List.all_eq_true.mp numeric
      simp only [List.isEmpty_eq_false_iff.mpr empty, numeric, Bool.not_true, Bool.or_self,
        Bool.false_eq_true, if_false, Option.ite_none_right_eq_some, Option.some.injEq]
      constructor
      · rintro ⟨bound, rfl⟩
        exact ⟨empty, each, rfl, bound⟩
      · rintro ⟨_, _, rfl, bound⟩
        exact ⟨bound, rfl⟩
    · have someLetter : ¬ ∀ digit, digit ∈ digits → digit.isDigit = true :=
        fun each => numeric (List.all_eq_true.mpr each)
      simp [numeric, someLetter]

private theorem parseLength?_of_unsigned
    {first : Char} (unsigned : first ≠ '+') (rest : List Char) :
    parseLength? (first :: rest) = parseDigits? (first :: rest) := by
  unfold parseLength?
  split
  · rename_i matched
    injection matched with headEq _
    exact absurd headEq unsigned
  · rfl

theorem parseLength?_eq_some_iff
    (text : List Char) (value : Nat) :
    parseLength? text = some value ↔ DenotesLength text value := by
  have plusIsNoDigit : ('+' : Char).isDigit = false := by decide
  unfold DenotesLength
  cases text with
  | nil =>
      simp [parseLength?]
  | cons first rest =>
      by_cases plus : first = '+'
      · subst first
        rw [show parseLength? ('+' :: rest) = parseDigits? rest from rfl, parseDigits?_eq_some_iff]
        constructor
        · rintro ⟨nonempty, numeric, equality, bound⟩
          exact ⟨rest, Or.inr rfl, nonempty, numeric, equality, bound⟩
        · rintro ⟨digits, rfl | equality, nonempty, numeric, valueEq, bound⟩
          · have := numeric '+' List.mem_cons_self
            rw [plusIsNoDigit] at this
            cases this
          · injection equality with _ tailEq
            subst digits
            exact ⟨nonempty, numeric, valueEq, bound⟩
      · rw [parseLength?_of_unsigned plus rest, parseDigits?_eq_some_iff]
        constructor
        · rintro ⟨nonempty, numeric, equality, bound⟩
          exact ⟨first :: rest, Or.inl rfl, nonempty, numeric, equality, bound⟩
        · rintro ⟨digits, rfl | equality, nonempty, numeric, valueEq, bound⟩
          · exact ⟨nonempty, numeric, valueEq, bound⟩
          · injection equality with headEq _
            exact absurd headEq plus

theorem parseLength?_eq_none_iff
    (text : List Char) :
    parseLength? text = none ↔ ∀ value, ¬ DenotesLength text value := by
  rw [Option.eq_none_iff_forall_ne_some]
  exact forall_congr' fun value => not_congr (parseLength?_eq_some_iff text value)

/-- The decimal digits of a number denote it. -/
theorem denotesLength_toDigits
    {number : Nat} (bound : number ≤ greatestLength) :
    DenotesLength (Nat.toDigits 10 number) number := by
  refine ⟨Nat.toDigits 10 number, Or.inl rfl, Nat.toDigits_ne_nil, ?_, ?_, bound⟩
  · intro digit member
    exact Nat.isDigit_of_mem_toDigits (by decide) (by decide) member
  · have value : Nat.ofDigitChars 10 (Nat.toDigits 10 number) 0 = number :=
      Nat.ofDigitChars_toDigits (by decide) (by decide)
    rw [← decimal_eq_ofDigits]
    simpa [Nat.ofDigitChars_eq_foldl, Nat.mul_comm] using value.symm

/-- The part of a text in front of its first colon has none. -/
theorem span_colon
    {key value : List Char} (absent : ':' ∉ key) :
    (key ++ ':' :: value).span (· != ':') = (key, ':' :: value) := by
  have keyTaken : ∀ letter, letter ∈ key → (letter != ':') = true := by
    intro letter member
    simpa using fun same : letter = ':' => absent (same ▸ member)
  rw [List.span_eq_takeWhile_dropWhile]
  simp [List.takeWhile_append_of_pos keyTaken, List.dropWhile_append_of_pos keyTaken]

theorem span_without_colon
    {text : List Char} (absent : ':' ∉ text) :
    text.span (· != ':') = (text, []) := by
  have allTaken : ∀ letter, letter ∈ text → (letter != ':') = true := by
    intro letter member
    simpa using fun same : letter = ':' => absent (same ▸ member)
  rw [List.span_eq_takeWhile_dropWhile, List.takeWhile_eq_self_iff.mpr allTaken,
    List.dropWhile_eq_nil_iff.mpr allTaken]

/-- The reader finds the meaning of every line. -/
theorem classifyLine_eq_of_denotes
    {line : List UInt8} {meaning : HeaderLine} (denotes : Denotes line meaning) :
    classifyLine line = meaning := by
  cases denotes with
  | notUtf8 undecoded =>
      simp [classifyLine, undecoded]
  | blank decoded empty =>
      simp [classifyLine, decoded, empty]
  | withoutColon decoded trimmedEq nonempty absent =>
      simp only [classifyLine, decoded, trimmedEq, List.isEmpty_eq_false_iff.mpr nonempty,
        Bool.false_eq_true, if_false, span_without_colon absent]
  | @length _ key value number decoded split absent isKey denoted =>
      have parsed : parseLength? (Text.trimBlanks value) = some number :=
        (parseLength?_eq_some_iff _ _).mpr denoted
      simp only [classifyLine, decoded, split, span_colon absent, parsed]
      simp [show Text.lowerAscii (Text.trimBlanks key) = lengthHeader from isKey]
  | @invalidLength _ key value decoded split absent isKey denotesNone =>
      have parsed : parseLength? (Text.trimBlanks value) = none :=
        (parseLength?_eq_none_iff _).mpr denotesNone
      simp only [classifyLine, decoded, split, span_colon absent, parsed]
      simp [show Text.lowerAscii (Text.trimBlanks key) = lengthHeader from isKey]
  | @other _ key value decoded split absent isOther =>
      simp only [classifyLine, decoded, split, span_colon absent]
      simp [show ¬ Text.lowerAscii (Text.trimBlanks key) = lengthHeader from isOther]

/-- Every line has a meaning. -/
theorem denotes_classifyLine
    (line : List UInt8) :
    Denotes line (classifyLine line) := by
  suffices total : ∃ meaning, Denotes line meaning by
    obtain ⟨meaning, denotes⟩ := total
    rwa [classifyLine_eq_of_denotes denotes]
  cases decoded : Text.Utf8.decode? line with
  | none => exact ⟨_, .notUtf8 decoded⟩
  | some text =>
      by_cases empty : Text.trimBlanks text.toList = []
      · exact ⟨_, .blank decoded empty⟩
      · by_cases colon : ':' ∈ Text.trimBlanks text.toList
        · obtain ⟨key, value, split, absent⟩ := List.eq_append_cons_of_mem colon
          by_cases isKey : IsLengthKey key
          · by_cases denoted : ∃ number, DenotesLength (Text.trimBlanks value) number
            · obtain ⟨number, denoted⟩ := denoted
              exact ⟨_, .length decoded split absent isKey denoted⟩
            · exact ⟨_, .invalidLength decoded split absent isKey (not_exists.mp denoted)⟩
          · exact ⟨_, .other decoded split absent isKey⟩
        · exact ⟨_, .withoutColon decoded rfl empty colon⟩

/-! ## Blocks -/

def EndsInFeed (line : List UInt8) : Prop :=
  ∃ text : List UInt8, 0x0A ∉ text ∧ line = text ++ [0x0A]

structure HeaderEntry where
  line : List UInt8
  meaning : HeaderLine
  ends : EndsInFeed line
  denotes : Denotes line meaning
  not_blank : meaning ≠ .blank

def HeaderLine.fault? : HeaderLine → Option HeaderFault
  | .faulty fault => some fault
  | _ => none

def HeaderLine.length? : HeaderLine → Option Nat
  | .length value => some value
  | _ => none

def firstFault? (entries : List HeaderEntry) : Option HeaderFault :=
  entries.findSome? fun entry => entry.meaning.fault?

def lastLength? (entries : List HeaderEntry) : Option Nat :=
  (entries.filterMap fun entry => entry.meaning.length?).getLast?

/-- A block: header lines, a blank line, and the bytes that the last length counts.
The blank line may lack its line feed when nothing comes behind it. -/
structure Block where
  entries : List HeaderEntry
  separator : List UInt8
  body : List UInt8
  separator_blank : Denotes separator .blank
  separator_ends :
    EndsInFeed separator ∨ (separator ≠ [] ∧ 0x0A ∉ separator ∧ body = [])
  body_length : body.length = (lastLength? entries).getD 0

namespace Block

def bytes (block : Block) : List UInt8 :=
  block.entries.flatMap HeaderEntry.line ++ (block.separator ++ block.body)

/-- Whether the blank line of a block has its line feed. -/
def IsTerminated (block : Block) : Prop := EndsInFeed block.separator

def entry (block : Block) : Entry :=
  match firstFault? block.entries, lastLength? block.entries with
  | some fault, _ => .error (.malformedHeader fault)
  | none, none => .error (.malformedHeader .missingLength)
  | none, some length =>
      if greatestBody < length then .error (.oversized length)
      else
        match Json.parse block.body with
        | .ok value => .frame value
        | .error error => .error (.invalidJson error)

theorem separator_ne_nil (block : Block) : block.separator ≠ [] := by
  rcases block.separator_ends with ⟨text, _, equality⟩ | ⟨nonempty, _, _⟩
  · rw [equality]
    exact List.append_ne_nil_of_right_ne_nil text (List.cons_ne_nil _ _)
  · exact nonempty

theorem bytes_ne_nil (block : Block) : block.bytes ≠ [] :=
  List.append_ne_nil_of_right_ne_nil _ <|
    List.append_ne_nil_of_left_ne_nil block.separator_ne_nil _

theorem entry_ne_finished (block : Block) : block.entry ≠ .finished := by
  unfold entry
  intro equality
  split at equality
  · cases equality
  · cases equality
  · split at equality
    · cases equality
    · split at equality <;> cases equality

end Block

/-- What one attempt comes to that reads an entry and leaves some bytes. -/
def Entry.leaving (rest : List UInt8) : Entry → Outcome
  | .frame value => .frame value rest
  | .error fault => .malformed fault rest
  | .finished => .finished

end LanguageClient.Frame

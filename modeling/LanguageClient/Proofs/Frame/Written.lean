import LanguageClient.Frame.Writer
import LanguageClient.Proofs.Frame.Resynchronization
import LanguageClient.Proofs.Text.Utf8

/-!
# The block of a written frame

A frame is written as a block with a single header line, which gives the length of the
body, and the reader finds the body again.
-/

namespace LanguageClient.Frame

/-! ## The header line -/

/-- The header line of a frame, without its line end. -/
def lengthText (length : Nat) : List Char :=
  "Content-Length: ".toList ++ Nat.toDigits 10 length

/-- The bytes of the header line of a frame, with its line end. -/
def lengthLine (length : Nat) : List UInt8 :=
  (lengthText length ++ ['\r', '\n']).flatMap String.utf8EncodeChar

private theorem isBlank_of_isDigit {c : Char} (digit : c.isDigit = true) :
    Text.isBlank c = false := by
  have bounds : 48 ≤ c.toNat ∧ c.toNat ≤ 57 := by
    simpa [Char.isDigit, UInt32.le_iff_toNat_le] using digit
  simp only [Text.isBlank]
  grind

private theorem dropWhile_isBlank
    {blanks text : List Char} (blank : ∀ c, c ∈ blanks → Text.isBlank c = true)
    (first : ∀ c, text.head? = some c → Text.isBlank c = false) :
    (blanks ++ text).dropWhile Text.isBlank = text := by
  rw [List.dropWhile_append_of_pos blank]
  cases text with
  | nil => rfl
  | cons c rest => simp [first c rfl]

/-- Blanks around a text that begins and ends with other characters are dropped. -/
private theorem trimBlanks_eq
    (left right : List Char) {text : List Char} (leftBlank : ∀ c, c ∈ left → Text.isBlank c = true)
    (rightBlank : ∀ c, c ∈ right → Text.isBlank c = true) (nonempty : text ≠ [])
    (first : ∀ c, text.head? = some c → Text.isBlank c = false)
    (last : ∀ c, text.getLast? = some c → Text.isBlank c = false) :
    Text.trimBlanks (left ++ (text ++ right)) = text := by
  have behind : ∀ c, (text ++ right).head? = some c → Text.isBlank c = false := by
    cases text with
    | nil => exact absurd rfl nonempty
    | cons c rest => exact first
  have reversed : ∀ c, text.reverse.head? = some c → Text.isBlank c = false := by
    intro c isFirst
    rw [List.head?_reverse] at isFirst
    exact last c isFirst
  rw [Text.trimBlanks, dropWhile_isBlank leftBlank behind, List.reverse_append,
    dropWhile_isBlank (fun c member => rightBlank c (List.mem_reverse.mp member)) reversed,
    List.reverse_reverse]

private theorem isDigit_of_mem {length : Nat} {c : Char} (member : c ∈ Nat.toDigits 10 length) :
    c.isDigit = true :=
  Nat.isDigit_of_mem_toDigits (by decide) (by decide) member

private theorem space_isBlank : ∀ c, c ∈ [' '] → Text.isBlank c = true :=
  List.all_eq_true.mp (by decide)

private theorem lineEnd_isBlank : ∀ c, c ∈ ['\r', '\n'] → Text.isBlank c = true :=
  List.all_eq_true.mp (by decide)

theorem trimBlanks_digits (length : Nat) :
    Text.trimBlanks (' ' :: Nat.toDigits 10 length) = Nat.toDigits 10 length := by
  have digit {c : Char} (member : c ∈ Nat.toDigits 10 length) : Text.isBlank c = false :=
    isBlank_of_isDigit (isDigit_of_mem member)
  have trimmed := trimBlanks_eq [' '] [] space_isBlank nofun
    Nat.toDigits_ne_nil (fun c isFirst => digit (List.mem_of_head? isFirst))
    (fun c isLast => digit (List.mem_of_getLast? isLast))
  simpa using trimmed

theorem trimBlanks_lengthText (length : Nat) :
    Text.trimBlanks (lengthText length ++ ['\r', '\n']) = lengthText length := by
  have nonempty : lengthText length ≠ [] := by
    unfold lengthText
    exact List.append_ne_nil_of_right_ne_nil _ Nat.toDigits_ne_nil
  have first : ∀ c, (lengthText length).head? = some c → Text.isBlank c = false := by
    intro c isFirst
    unfold lengthText at isFirst
    rw [List.head?_append, show "Content-Length: ".toList.head? = some 'C' by decide,
      Option.some_or, Option.some.injEq] at isFirst
    rw [← isFirst]
    decide
  have last : ∀ c, (lengthText length).getLast? = some c → Text.isBlank c = false := by
    intro c isLast
    unfold lengthText at isLast
    rw [List.getLast?_append, List.getLast?_eq_some_getLast Nat.toDigits_ne_nil,
      Option.some_or, Option.some.injEq] at isLast
    rw [← isLast]
    exact isBlank_of_isDigit (isDigit_of_mem (List.getLast_mem _))
  have trimmed := trimBlanks_eq [] ['\r', '\n'] nofun lineEnd_isBlank nonempty first last
  simpa using trimmed

private theorem mem_lengthText
    {length : Nat} {c : Char} (member : c ∈ lengthText length) :
    c ∈ "Content-Length: ".toList ∨ (48 ≤ c.toNat ∧ c.toNat ≤ 57) := by
  unfold lengthText at member
  refine (List.mem_append.mp member).imp_right fun inDigits => ?_
  simpa [Char.isDigit, UInt32.le_iff_toNat_le] using isDigit_of_mem inDigits

/-- The characters of the header line have one byte each and end no line. -/
private theorem lengthText_bounds
    {length : Nat} {c : Char} (member : c ∈ lengthText length) :
    c.toNat < 128 ∧ c.toNat ≠ 10 := by
  rcases mem_lengthText member with inName | ⟨lower, upper⟩
  · have name : "Content-Length: ".toList.all (fun c => c.toNat < 128 ∧ c.toNat ≠ 10) = true := by
      decide
    exact of_decide_eq_true (List.all_eq_true.mp name c inName)
  · omega

theorem isAscii_lengthText (length : Nat) :
    Text.Utf8.IsAscii (lengthText length ++ ['\r', '\n']) := by
  have lineEnd : Text.Utf8.IsAscii ['\r', '\n'] := Text.Utf8.isAscii_of_all (by decide)
  intro c member
  rcases List.mem_append.mp member with inText | inEnd
  · exact (lengthText_bounds inText).1
  · exact lineEnd c inEnd

theorem denotes_lengthLine {length : Nat} (bound : length ≤ greatestLength) :
    Denotes (lengthLine length) (.length length) := by
  have decoded : Text.Utf8.decode? (lengthLine length) =
      some (String.ofList (lengthText length ++ ['\r', '\n'])) :=
    Text.Utf8.decode?_of_isAscii (isAscii_lengthText length)
  have split : Text.trimBlanks (String.ofList (lengthText length ++ ['\r', '\n'])).toList =
      "Content-Length".toList ++ ':' :: (' ' :: Nat.toDigits 10 length) := by
    rw [String.toList_ofList, trimBlanks_lengthText]
    rfl
  have noColon : ':' ∉ "Content-Length".toList := by decide
  have isKey : IsLengthKey "Content-Length".toList := by
    unfold IsLengthKey
    decide
  have denoted : DenotesLength (Text.trimBlanks (' ' :: Nat.toDigits 10 length)) length := by
    rw [trimBlanks_digits]
    exact denotesLength_toDigits bound
  exact .length decoded split noColon isKey denoted

/-- The line feed at the end of the header line is the only one in it. -/
theorem lengthLine_endsInFeed (length : Nat) : EndsInFeed (lengthLine length) := by
  refine ⟨(lengthText length ++ ['\r']).flatMap String.utf8EncodeChar, ?_, ?_⟩
  · intro member
    obtain ⟨c, inText, isFeed⟩ := List.mem_flatMap.mp member
    have bounds : c.toNat < 128 ∧ c.toNat ≠ 10 := by
      rcases List.mem_append.mp inText with inText | isReturn
      · exact lengthText_bounds inText
      · rw [List.mem_singleton.mp isReturn]
        decide
    rw [Text.Utf8.utf8EncodeChar_of_lt bounds.1, List.mem_singleton] at isFeed
    have code := congrArg UInt8.toNat isFeed
    simp at code
    omega
  · have feed : ['\n'].flatMap String.utf8EncodeChar = [0x0A] := by decide
    rw [lengthLine, ← feed, ← List.flatMap_append, List.append_assoc]
    rfl

/-- The header line begins with the first letter of the name of the header. -/
theorem lengthLine_eq_cons (length : Nat) :
    ∃ rest, lengthLine length = UInt8.ofNat 'C'.toNat :: rest := by
  have name : "Content-Length: ".toList = 'C' :: "ontent-Length: ".toList := by decide
  have letter : String.utf8EncodeChar 'C' = [UInt8.ofNat 'C'.toNat] := by decide
  unfold lengthLine lengthText
  rw [name, List.cons_append, List.cons_append, List.flatMap_cons, letter, List.singleton_append]
  exact ⟨_, rfl⟩

def headerEntry (length : Nat) (bound : length ≤ greatestLength) : HeaderEntry where
  line := lengthLine length
  meaning := .length length
  ends := lengthLine_endsInFeed length
  denotes := denotes_lengthLine bound
  not_blank := by simp

/-! ## The whole frame -/

/-- A value that comes back from its own text, which a body has room for. -/
structure ReadsBack (value : Json) : Prop where
  parsed : Json.parse (Text.Utf8.encode value.render) = .ok value
  fits : (Text.Utf8.encode value.render).length ≤ greatestBody

/-- No value has an empty text. -/
theorem ReadsBack.body_ne_nil {value : Json} (readsBack : ReadsBack value) :
    Text.Utf8.encode value.render ≠ [] := by
  intro empty
  have parsed := readsBack.parsed
  rw [empty] at parsed
  have failed : (Json.parse []).toOption = none := by decide
  rw [parsed] at failed
  cases failed

/-- The bytes between the header line and the body. -/
def frameSeparator : List UInt8 := [0x0D, 0x0A]

theorem frameSeparator_blank : Denotes frameSeparator .blank := by
  have ascii : Text.Utf8.IsAscii ['\r', '\n'] := Text.Utf8.isAscii_of_all (by decide)
  exact Denotes.blank (Text.Utf8.decode?_of_isAscii ascii) (by decide)

theorem frameSeparator_endsInFeed : EndsInFeed frameSeparator :=
  ⟨[0x0D], by decide, rfl⟩

theorem encode_eq (value : Json) :
    encode value =
      lengthLine (Text.Utf8.encode value.render).length ++
        (frameSeparator ++ Text.Utf8.encode value.render) := by
  have digits : toString value.render.utf8ByteSize =
      String.ofList (Nat.toDigits 10 (Text.Utf8.encode value.render).length) := by
    rw [Text.Utf8.length_encode]
    rfl
  have header : ∀ length,
      Text.Utf8.encode
          ("Content-Length: " ++ String.ofList (Nat.toDigits 10 length) ++ "\r\n\r\n") =
        lengthLine length ++ frameSeparator := by
    intro length
    have lineEnd : "\r\n\r\n".toList = ['\r', '\n'] ++ ['\r', '\n'] := by decide
    have separator : ['\r', '\n'].flatMap String.utf8EncodeChar = frameSeparator := by decide
    unfold lengthLine lengthText
    simp only [Text.Utf8.encode, String.toList_append, String.toList_ofList, lineEnd,
      List.flatMap_append, List.append_assoc, separator]
  have whole : encode value =
      Text.Utf8.encode
        ("Content-Length: " ++ toString value.render.utf8ByteSize ++ "\r\n\r\n" ++ value.render) :=
    rfl
  simp only [whole, Text.Utf8.encode_append _ value.render, digits, header, List.append_assoc]

namespace Block

def ofFrame (value : Json) (readsBack : ReadsBack value) : Block where
  entries := [headerEntry _ (readsBack.fits.trans (by decide))]
  separator := frameSeparator
  body := Text.Utf8.encode value.render
  separator_blank := frameSeparator_blank
  separator_ends := Or.inl frameSeparator_endsInFeed
  body_length := rfl

theorem ofFrame_isTerminated (value : Json) (readsBack : ReadsBack value) :
    (ofFrame value readsBack).IsTerminated :=
  frameSeparator_endsInFeed

theorem ofFrame_bytes (value : Json) (readsBack : ReadsBack value) :
    (ofFrame value readsBack).bytes = encode value := by
  rw [encode_eq]
  simp [bytes, ofFrame, headerEntry]

theorem ofFrame_entry (value : Json) (readsBack : ReadsBack value) :
    (ofFrame value readsBack).entry = .frame value := by
  have length : lastLength? (ofFrame value readsBack).entries =
      some (Text.Utf8.encode value.render).length := rfl
  have fault : firstFault? (ofFrame value readsBack).entries = none := rfl
  have body : Json.parse (ofFrame value readsBack).body = .ok value := readsBack.parsed
  simp only [entry, fault, length, Nat.not_lt_of_le readsBack.fits, if_false, body]

end Block

end LanguageClient.Frame

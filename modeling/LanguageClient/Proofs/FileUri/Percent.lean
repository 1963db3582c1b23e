import LanguageClient.FileUri.Trail
import LanguageClient.Proofs.Text.Utf8

/-!
# Written segments

Whatever bytes a segment has, its written form is made of printable ASCII characters that
neither separate segments nor end the path, and reading it gives the bytes back.  So it is
taken for a dot or two only if that is what it is.
-/

namespace LanguageClient.FileUri

/-! ## Characters -/

/-- Whether a character can stand in the written form of a segment. -/
structure IsWritten (c : Char) : Prop where
  printable : 0x20 < c.toNat
  ascii : c.toNat < 128
  separatesNothing : c ≠ '/' ∧ c ≠ '\\'
  endsNothing : c ≠ '?' ∧ c ≠ '#'

instance (c : Char) : Decidable (IsWritten c) :=
  decidable_of_iff (0x20 < c.toNat ∧ c.toNat < 128 ∧ (c ≠ '/' ∧ c ≠ '\\') ∧ c ≠ '?' ∧ c ≠ '#')
    ⟨fun ⟨printable, ascii, separates, ends⟩ => ⟨printable, ascii, separates, ends⟩,
      fun written => ⟨written.printable, written.ascii, written.separatesNothing,
        written.endsNothing⟩⟩

section Written

variable {c : Char}

theorem IsWritten.isSeparator (written : IsWritten c) (scheme : Scheme) :
    scheme.isSeparator c = false := by
  obtain ⟨noSlash, noBackslash⟩ := written.separatesNothing
  simp [Scheme.isSeparator, noSlash, noBackslash]

theorem IsWritten.endsPath (written : IsWritten c) : endsPath c = false := by
  obtain ⟨noQuery, noFragment⟩ := written.endsNothing
  simp [FileUri.endsPath, noQuery, noFragment]

theorem isBreak_of_printable (printable : 0x20 < c.toNat) : isBreak c = false := by
  have different (other : Char) (control : other.toNat ≤ 0x20) : c ≠ other := by
    rintro rfl
    omega
  simp [isBreak, different '\t' (by decide), different '\n' (by decide),
    different '\r' (by decide)]

end Written

/-! ## Bytes -/

theorem isWritten_hexDigit : ∀ n, n < 16 → IsWritten (hexDigit n) := by
  decide +kernel

theorem hexValue?_hexDigit : ∀ n, n < 16 →
    hexValue? (UInt8.ofNat (hexDigit n).toNat) = some n := by
  decide +kernel

/-- The bytes that stand for themselves are written as characters that a segment may have,
and are no percent signs. -/
theorem isWritten_of_staysPlain
    {byte : UInt8} (plain : staysPlain byte = true) :
    IsWritten (Char.ofNat byte.toNat) ∧ (Char.ofNat byte.toNat).toNat = byte.toNat ∧
      byte ≠ 0x25 := by
  have all : ∀ n, n < 256 → staysPlain (UInt8.ofNat n) = true →
      IsWritten (Char.ofNat n) ∧ (Char.ofNat n).toNat = n ∧ n ≠ 0x25 := by
    decide +kernel
  obtain ⟨written, same, noPercent⟩ := all byte.toNat byte.toNat_lt (by simpa using plain)
  exact ⟨written, same, fun isPercent => noPercent (congrArg UInt8.toNat isPercent)⟩

theorem isWritten_of_mem_encodeByte
    {byte : UInt8} {c : Char} (member : c ∈ encodeByte byte) : IsWritten c := by
  have small := byte.toNat_lt
  unfold encodeByte at member
  split at member
  · rename_i plain
    rw [List.mem_singleton.mp member]
    exact (isWritten_of_staysPlain plain).1
  · simp only [List.mem_cons, List.not_mem_nil, or_false] at member
    rcases member with rfl | rfl | rfl
    · decide
    · exact isWritten_hexDigit _ (by omega)
    · exact isWritten_hexDigit _ (by omega)

def asciiBytes (text : List Char) : List UInt8 :=
  text.map fun c => UInt8.ofNat c.toNat

theorem encode_ofList_of_isAscii {text : List Char} (ascii : Text.Utf8.IsAscii text) :
    Text.Utf8.encode (String.ofList text) = asciiBytes text := by
  rw [Text.Utf8.encode, String.toList_ofList, asciiBytes]
  induction text with
  | nil => rfl
  | cons c text inductionHypothesis =>
      rw [List.flatMap_cons, Text.Utf8.utf8EncodeChar_of_lt (ascii c List.mem_cons_self),
        inductionHypothesis fun c member => ascii c (List.mem_cons_of_mem _ member)]
      rfl

theorem decodeBytes_cons_of_ne {byte : UInt8} (noPercent : byte ≠ 0x25) (rest : List UInt8) :
    decodeBytes (byte :: rest) = byte :: decodeBytes rest := by
  rw [decodeBytes]
  rintro first second rest' rfl
  exact absurd rfl noPercent

/-- Reading a byte that was written gives it back, whatever follows it. -/
theorem decodeBytes_encodeByte (byte : UInt8) (rest : List UInt8) :
    decodeBytes (asciiBytes (encodeByte byte) ++ rest) = byte :: decodeBytes rest := by
  have small := byte.toNat_lt
  unfold encodeByte
  split
  · rename_i plain
    obtain ⟨_, same, noPercent⟩ := isWritten_of_staysPlain plain
    have sameByte : asciiBytes [Char.ofNat byte.toNat] = [byte] := by
      simp [asciiBytes, same]
    rw [sameByte, List.singleton_append, decodeBytes_cons_of_ne noPercent]
  · have high := hexValue?_hexDigit (byte.toNat / 16) (by omega)
    have low := hexValue?_hexDigit (byte.toNat % 16) (by omega)
    have percent : UInt8.ofNat '%'.toNat = 0x25 := rfl
    have whole : byte.toNat / 16 * 16 + byte.toNat % 16 = byte.toNat := Nat.div_add_mod' _ _
    simp only [asciiBytes, List.map_cons, List.map_nil, List.cons_append, List.nil_append,
      percent, decodeBytes, high, low, whole, UInt8.ofNat_toNat]

/-! ## Segments -/

section Segments

variable (bytes : List UInt8)

theorem isWritten_of_mem_encodeSegment {bytes : List UInt8} :
    ∀ c, c ∈ encodeSegment bytes → IsWritten c := by
  intro c member
  obtain ⟨byte, _, isOf⟩ := List.mem_flatMap.mp member
  exact isWritten_of_mem_encodeByte isOf

/-- Reading a segment that was written gives its bytes back. -/
theorem decodeText_encodeSegment : decodeText (encodeSegment bytes) = bytes := by
  rw [decodeText, encode_ofList_of_isAscii fun c member =>
    (isWritten_of_mem_encodeSegment c member).ascii]
  induction bytes with
  | nil => rfl
  | cons byte bytes inductionHypothesis =>
      have split : asciiBytes (encodeSegment (byte :: bytes)) =
          asciiBytes (encodeByte byte) ++ asciiBytes (encodeSegment bytes) := by
        simp [encodeSegment, asciiBytes]
      rw [split, decodeBytes_encodeByte, inductionHypothesis]

theorem encodeSegment_injective : Function.Injective encodeSegment := by
  intro bytes bytes' same
  rw [← decodeText_encodeSegment bytes, same, decodeText_encodeSegment]

theorem encodeSegment_eq_nil_iff : encodeSegment bytes = [] ↔ bytes = [] :=
  encodeSegment_injective.eq_iff' rfl

theorem dropBreaks_encodeSegment : dropBreaks (encodeSegment bytes) = encodeSegment bytes := by
  rw [dropBreaks, List.filter_eq_self]
  intro c member
  rw [isBreak_of_printable (isWritten_of_mem_encodeSegment c member).printable]
  rfl

/-! ## Dots -/

/-- However a dot is written, it is read as a dot. -/
theorem decodeText_of_isHere {segment : List Char} (here : isHere segment = true) :
    decodeText segment = [Path.dot] := by
  have spellings : [['.'], ['%', '2', 'e'], ['%', '2', 'E']].contains segment = true := here
  simp only [List.contains_iff_mem, List.mem_cons, List.not_mem_nil, or_false] at spellings
  rcases spellings with rfl | rfl | rfl <;> decide +kernel

theorem decodeText_of_isAbove {segment : List Char} (above : isAbove segment = true) :
    decodeText segment = [Path.dot, Path.dot] := by
  let dots : List (List Char) := [['.'], ['%', '2', 'e'], ['%', '2', 'E']]
  have spellings : (dots.any fun first => dots.any fun second => first ++ second == segment) =
      true := above
  simp only [dots, List.any_eq_true, List.mem_cons, List.not_mem_nil, or_false, beq_iff_eq]
    at spellings
  obtain ⟨first, isFirst, second, isSecond, rfl⟩ := spellings
  rcases isFirst with rfl | rfl | rfl <;> rcases isSecond with rfl | rfl | rfl <;>
    decide +kernel

theorem isHere_encodeSegment {bytes : List UInt8} (noDot : bytes ≠ [Path.dot]) :
    isHere (encodeSegment bytes) = false := by
  rw [Bool.eq_false_iff]
  exact fun here => noDot (decodeText_encodeSegment bytes ▸ decodeText_of_isHere here)

theorem isAbove_encodeSegment {bytes : List UInt8} (noDots : bytes ≠ [Path.dot, Path.dot]) :
    isAbove (encodeSegment bytes) = false := by
  rw [Bool.eq_false_iff]
  exact fun above => noDots (decodeText_encodeSegment bytes ▸ decodeText_of_isAbove above)

end Segments

end LanguageClient.FileUri

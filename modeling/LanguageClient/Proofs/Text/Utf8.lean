import LanguageClient.Text.Utf8

/-!
# UTF-8 of texts

The bytes of a text and how many there are, and the reading of bytes that stand for
ASCII characters.
-/

namespace LanguageClient.Text.Utf8

theorem encode_append (first second : String) :
    encode (first ++ second) = encode first ++ encode second := by
  simp [encode]

theorem length_encode (text : String) : (encode text).length = text.utf8ByteSize := by
  have bytes : (String.ofList text.toList).toByteArray = text.toList.utf8Encode :=
    String.toByteArray_ofList
  rw [String.ofList_toList] at bytes
  rw [String.utf8ByteSize, bytes, List.utf8Encode, List.size_toByteArray, encode]

/-! ## ASCII -/

def IsAscii (text : List Char) : Prop :=
  ∀ c, c ∈ text → c.toNat < 128

theorem isAscii_of_all {text : List Char} (all : text.all (fun c => c.toNat < 128) = true) :
    IsAscii text :=
  fun c member => of_decide_eq_true (List.all_eq_true.mp all c member)

theorem utf8EncodeChar_of_lt {c : Char} (ascii : c.toNat < 128) :
    String.utf8EncodeChar c = [UInt8.ofNat c.toNat] := by
  unfold String.utf8EncodeChar
  exact if_pos (Nat.le_of_lt_succ ascii)

theorem step_of_lt {c : Char} (ascii : c.toNat < 128) (rest : List UInt8) :
    step (UInt8.ofNat c.toNat) rest = .character c rest := by
  have small : (UInt8.ofNat c.toNat).toNat = c.toNat := by
    simp
    omega
  have lead : UInt8.ofNat c.toNat < 0x80 := by
    rw [UInt8.lt_iff_toNat_lt, small]
    exact ascii
  simp [step, width, lead, small]

theorem decodeFrom?_of_isAscii
    {text : List Char} (ascii : IsAscii text) (read : List Char) :
    decodeFrom? read (text.flatMap String.utf8EncodeChar) = some (read.reverse ++ text) := by
  induction text generalizing read with
  | nil => simp [decodeFrom?]
  | cons c rest inductionHypothesis =>
      have first : c.toNat < 128 := ascii c List.mem_cons_self
      have others : IsAscii rest := fun c member => ascii c (List.mem_cons_of_mem _ member)
      rw [List.flatMap_cons, utf8EncodeChar_of_lt first, List.singleton_append, decodeFrom?]
      split
      · rename_i value rest' stepped
        rw [step_of_lt first] at stepped
        injection stepped with sameValue sameRest
        subst sameValue sameRest
        exact (inductionHypothesis others (c :: read)).trans (by simp)
      · rename_i rest' stepped
        cases (step_of_lt first _).symm.trans stepped

theorem decode?_of_isAscii {text : List Char} (ascii : IsAscii text) :
    decode? (text.flatMap String.utf8EncodeChar) = some (String.ofList text) := by
  rw [decode?, decodeFrom?_of_isAscii ascii]
  rfl

/-! ## Decoding -/

/-- The characters that were read before stay in front. -/
theorem prefix_of_decodeFrom?
    {read : List Char} {bytes : List UInt8} {text : List Char}
    (decoded : decodeFrom? read bytes = some text) :
    read.reverse <+: text := by
  fun_induction decodeFrom? read bytes with
  | case1 read =>
      exact Option.some.inj decoded ▸ List.prefix_rfl
  | case2 read lead rest value rest' stepped _ inductionHypothesis =>
      have longer : (value :: read).reverse <+: text := inductionHypothesis decoded
      rw [List.reverse_cons] at longer
      exact (List.prefix_append _ _).trans longer
  | case3 => cases decoded

/-- The text of bytes that begin with an ASCII character begins with it. -/
theorem head?_of_decode?
    {c : Char} (ascii : c.toNat < 128) {rest : List UInt8} {text : String}
    (decoded : decode? (UInt8.ofNat c.toNat :: rest) = some text) :
    text.toList.head? = some c := by
  obtain ⟨characters, characterwise, rfl⟩ := Option.map_eq_some_iff.mp decoded
  rw [decodeFrom?] at characterwise
  split at characterwise
  · rename_i value rest' stepped
    rw [step_of_lt ascii] at stepped
    injection stepped with sameValue sameRest
    subst sameValue sameRest
    obtain ⟨behind, split⟩ := prefix_of_decodeFrom? characterwise
    rw [String.toList_ofList, ← split]
    rfl
  · cases characterwise

end LanguageClient.Text.Utf8

import LanguageClient.Proofs.Frame.Block

/-!
# Resynchronization

The reader comes out of every block exactly at its end, whatever is wrong with
it, and a stream that was closed is a list of blocks or ends in the middle of
one.
-/

namespace LanguageClient.Frame

/-! ## Lines -/

private theorem span_feed
    {text : List UInt8} (absent : 0x0A ∉ text) (rest : List UInt8) :
    (text ++ 0x0A :: rest).span (· != 0x0A) = (text, 0x0A :: rest) := by
  have textTaken : ∀ byte, byte ∈ text → (byte != 0x0A) = true := by
    intro byte member
    simpa using fun same : byte = 0x0A => absent (same ▸ member)
  rw [List.span_eq_takeWhile_dropWhile]
  simp [List.takeWhile_append_of_pos textTaken, List.dropWhile_append_of_pos textTaken]

private theorem span_without_feed
    {text : List UInt8} (absent : 0x0A ∉ text) :
    text.span (· != 0x0A) = (text, []) := by
  have allTaken : ∀ byte, byte ∈ text → (byte != 0x0A) = true := by
    intro byte member
    simpa using fun same : byte = 0x0A => absent (same ▸ member)
  rw [List.span_eq_takeWhile_dropWhile, List.takeWhile_eq_self_iff.mpr allTaken,
    List.dropWhile_eq_nil_iff.mpr allTaken]

theorem takeLine_of_endsInFeed
    {line : List UInt8} (ends : EndsInFeed line) (rest : List UInt8) (ending : StreamEnd) :
    takeLine ⟨line ++ rest, ending⟩ = .ok (line, rest) := by
  obtain ⟨text, absent, rfl⟩ := ends
  have joined : text ++ [0x0A] ++ rest = text ++ 0x0A :: rest := by simp
  simp only [takeLine, joined, span_feed absent]

theorem takeLine_of_last
    {line : List UInt8} (nonempty : line ≠ []) (absent : 0x0A ∉ line) :
    takeLine ⟨line, .closed⟩ = .ok (line, []) := by
  cases line with
  | nil => exact absurd rfl nonempty
  | cons first rest => simp only [takeLine, span_without_feed absent]

theorem takeLine_of_unfinished
    {line : List UInt8} (absent : 0x0A ∉ line) {ending : StreamEnd}
    (unclosed : ending ≠ .closed) :
    takeLine ⟨line, ending⟩ = .error (stopAt ending .headers) := by
  cases line with
  | nil => rfl
  | cons first rest =>
      cases ending with
      | closed => exact absurd rfl unclosed
      | failed message | «open» => simp only [takeLine, span_without_feed absent]

/-- A line of a stream: one with its line feed, the last bytes of a closed stream, or
none yet. -/
theorem takeLine_cases
    (bytes : List UInt8) (ending : StreamEnd) :
    takeLine ⟨bytes, ending⟩ = .error (stopAt ending .headers) ∨
      (∃ line rest, EndsInFeed line ∧ bytes = line ++ rest ∧
        takeLine ⟨bytes, ending⟩ = .ok (line, rest)) ∨
      (bytes ≠ [] ∧ 0x0A ∉ bytes ∧ ending = .closed ∧
        takeLine ⟨bytes, ending⟩ = .ok (bytes, [])) := by
  by_cases feed : (0x0A : UInt8) ∈ bytes
  · obtain ⟨text, rest, split, absent⟩ := List.eq_append_cons_of_mem feed
    have ends : EndsInFeed (text ++ [0x0A]) := ⟨text, absent, rfl⟩
    have whole : bytes = (text ++ [0x0A]) ++ rest := by simp [split]
    exact Or.inr (Or.inl ⟨_, rest, ends, whole, whole ▸ takeLine_of_endsInFeed ends rest ending⟩)
  · by_cases empty : bytes = []
    · exact Or.inl (by simp [empty, takeLine])
    · by_cases closed : ending = .closed
      · subst closed
        exact Or.inr (Or.inr ⟨empty, feed, rfl, takeLine_of_last empty feed⟩)
      · exact Or.inl (takeLine_of_unfinished feed closed)

/-! ## Header blocks -/

/-- What header lines add to what was said before them: the last length counts,
and the first fault. -/
theorem foldl_add_eq
    (entries : List HeaderEntry) (block : HeaderBlock) :
    entries.foldl (fun block entry => block.add entry.meaning) block =
      ⟨(lastLength? entries).or block.length, block.fault.or (firstFault? entries)⟩ := by
  induction entries generalizing block with
  | nil => simp [lastLength?, firstFault?]
  | cons entry entries inductionHypothesis =>
      rw [List.foldl_cons, inductionHypothesis]
      cases meaning : entry.meaning with
      | blank => exact absurd meaning entry.not_blank
      | other =>
          simp [HeaderBlock.add, lastLength?, firstFault?, meaning, HeaderLine.length?,
            HeaderLine.fault?]
      | length value =>
          simp only [HeaderBlock.add, lastLength?, firstFault?, List.filterMap_cons,
            List.findSome?_cons, meaning, HeaderLine.length?, HeaderLine.fault?,
            List.getLast?_cons]
          cases (entries.filterMap fun entry => entry.meaning.length?).getLast? <;> simp
      | faulty fault =>
          simp only [HeaderBlock.add, HeaderBlock.withFault, lastLength?, firstFault?,
            List.filterMap_cons, List.findSome?_cons, meaning, HeaderLine.length?,
            HeaderLine.fault?]
          cases block.fault <;> simp

/-- A header line is one more of the block, and the reader goes on behind it. -/
theorem readBlock_line
    (entry : HeaderEntry) (rest : List UInt8) (ending : StreamEnd)
    (fuel : Nat) (block : HeaderBlock) :
    readBlock (fuel + 1) block ⟨entry.line ++ rest, ending⟩ =
      readBlock fuel (block.add entry.meaning) ⟨rest, ending⟩ := by
  rw [readBlock, takeLine_of_endsInFeed entry.ends rest ending]
  simp only [classifyLine_eq_of_denotes entry.denotes]
  split
  · rename_i isBlank
    exact absurd isBlank entry.not_blank
  · rfl

/-- Header lines are read up to the blank line behind them. -/
theorem readBlock_entries
    {separator bytes rest : List UInt8} {ending : StreamEnd}
    (blank : Denotes separator .blank)
    (taken : takeLine ⟨bytes, ending⟩ = .ok (separator, rest))
    (entries : List HeaderEntry) (block : HeaderBlock) (fuel : Nat)
    (enough : entries.length < fuel) :
    readBlock fuel block ⟨entries.flatMap HeaderEntry.line ++ bytes, ending⟩ =
      .ok (entries.foldl (fun block entry => block.add entry.meaning) block, rest) := by
  induction entries generalizing block fuel with
  | nil =>
      obtain ⟨fuel, rfl⟩ := Nat.exists_eq_succ_of_ne_zero (Nat.ne_of_gt enough)
      simp [readBlock, taken, classifyLine_eq_of_denotes blank]
  | cons entry entries inductionHypothesis =>
      obtain ⟨fuel, rfl⟩ := Nat.exists_eq_succ_of_ne_zero (Nat.ne_of_gt (Nat.zero_lt_of_lt enough))
      have fewer : entries.length < fuel := Nat.lt_of_succ_lt_succ enough
      rw [List.flatMap_cons, List.append_assoc, readBlock_line, List.foldl_cons]
      exact inductionHypothesis _ fuel fewer

theorem readBlock_of_nothing
    (fuel : Nat) (block : HeaderBlock) (ending : StreamEnd) :
    readBlock fuel block ⟨[], ending⟩ = .error (stopAt ending .headers) := by
  cases fuel with
  | zero => rfl
  | succ fuel => rfl

/-- A header block of a stream comes to its blank line, or the reader is stopped in it. -/
theorem readBlock_cases
    (bytes : List UInt8) (ending : StreamEnd) :
    (∀ fuel block, readBlock fuel block ⟨bytes, ending⟩ = .error (stopAt ending .headers)) ∨
      ∃ (entries : List HeaderEntry) (separator rest : List UInt8),
        Denotes separator .blank ∧
        (EndsInFeed separator ∨
          (separator ≠ [] ∧ 0x0A ∉ separator ∧ rest = [] ∧ ending = .closed)) ∧
        bytes = entries.flatMap HeaderEntry.line ++ (separator ++ rest) := by
  induction counted : bytes.length using Nat.strong_induction_on generalizing bytes with
  | _ size inductionHypothesis =>
      rcases takeLine_cases bytes ending with
        stopped | ⟨line, rest, ends, split, taken⟩ | ⟨nonempty, absent, rfl, taken⟩
      · left
        intro fuel block
        cases fuel with
        | zero => rfl
        | succ fuel => simp only [readBlock, stopped]
      · cases meaning : classifyLine line with
        | blank =>
            exact Or.inr ⟨[], line, rest, meaning ▸ denotes_classifyLine line, Or.inl ends,
              by simpa using split⟩
        | length | other | faulty =>
            -- The line is one more entry of the block that the rest begins with.
            all_goals
              have shorter : rest.length < size := by
                obtain ⟨text, _, lineEq⟩ := ends
                rw [← counted, split, lineEq]
                simp only [List.length_append, List.length_singleton]
                omega
              let entry : HeaderEntry :=
                ⟨line, _, ends, meaning ▸ denotes_classifyLine line, by simp⟩
              rcases inductionHypothesis rest.length shorter rest rfl with
                stopped | ⟨entries, separator, left, blank, separated, restSplit⟩
              · left
                intro fuel block
                cases fuel with
                | zero => rfl
                | succ fuel =>
                    rw [split, ← show entry.line = line from rfl, readBlock_line]
                    exact stopped fuel _
              · refine Or.inr ⟨entry :: entries, separator, left, blank, separated, ?_⟩
                rw [split, restSplit, List.flatMap_cons, List.append_assoc]
      · cases meaning : classifyLine bytes with
        | blank =>
            exact Or.inr ⟨[], bytes, [], meaning ▸ denotes_classifyLine bytes,
              Or.inr ⟨nonempty, absent, rfl, rfl⟩, by simp⟩
        | length | other | faulty =>
            -- Behind the last bytes there is nothing, so no blank line comes.
            all_goals
              left
              intro fuel block
              cases fuel with
              | zero => rfl
              | succ fuel =>
                  rw [readBlock]
                  simp only [taken, meaning]
                  exact readBlock_of_nothing fuel _ .closed

/-! ## Bodies -/

theorem skipBytes_append
    (body rest : List UInt8) (ending : StreamEnd) :
    skipBytes body.length ⟨body ++ rest, ending⟩ = .ok rest := by
  unfold skipBytes
  cases body using List.reverseRecOn with
  | nil => simp
  | append_singleton body last => simp

theorem takeBytes_append
    (body rest : List UInt8) (part : FramePart) (ending : StreamEnd) :
    takeBytes body.length part ⟨body ++ rest, ending⟩ = .ok (body, rest) := by
  simp [takeBytes]

theorem skipBytes_of_lt
    {count : Nat} {bytes : List UInt8} (short : bytes.length < count) (ending : StreamEnd) :
    skipBytes count ⟨bytes, ending⟩ = .error (stopAt ending .skippedBody) := by
  have positive : count ≠ 0 := by omega
  have nothing : bytes.drop (count - 1) = [] := List.drop_eq_nil_of_le (by omega)
  simp [skipBytes, positive, nothing]

theorem takeBytes_of_lt
    {count : Nat} {bytes : List UInt8} (short : bytes.length < count)
    (part : FramePart) (ending : StreamEnd) :
    takeBytes count part ⟨bytes, ending⟩ = .error (stopAt ending part) := by
  simp [takeBytes, short]

/-! ## One block -/

namespace Block

/-- The bytes behind a block leave its blank line as it is. -/
def FitsBefore (block : Block) (rest : List UInt8) (ending : StreamEnd) : Prop :=
  block.IsTerminated ∨ (rest = [] ∧ ending = .closed)

theorem takeLine_separator
    (block : Block) {rest : List UInt8} {ending : StreamEnd}
    (fits : block.FitsBefore rest ending) :
    takeLine ⟨block.separator ++ (block.body ++ rest), ending⟩ =
      .ok (block.separator, block.body ++ rest) := by
  rcases block.separator_ends with terminated | ⟨nonempty, absent, bodyEmpty⟩
  · exact takeLine_of_endsInFeed terminated _ ending
  · rcases fits with terminated | ⟨rfl, rfl⟩
    · exact takeLine_of_endsInFeed terminated _ ending
    · rw [bodyEmpty]
      simpa using takeLine_of_last nonempty absent

/-- Every header line has a byte at least. -/
theorem length_le_flatMap_line (entries : List HeaderEntry) :
    entries.length ≤ (entries.flatMap HeaderEntry.line).length := by
  induction entries with
  | nil => simp
  | cons entry entries inductionHypothesis =>
      obtain ⟨text, _, equality⟩ := entry.ends
      simp only [List.flatMap_cons, List.length_cons, List.length_append, equality]
      omega

theorem entries_length_lt_bytes_length (block : Block) :
    block.entries.length < block.bytes.length := by
  have lines := length_le_flatMap_line block.entries
  have separator : 0 < block.separator.length :=
    List.length_pos_iff.mpr block.separator_ne_nil
  simp only [bytes, List.length_append]
  omega

/-- What follows the header lines of a block is read as the block says. -/
theorem readBody_eq
    (block : Block) (rest : List UInt8) (ending : StreamEnd) :
    readBody ⟨lastLength? block.entries, firstFault? block.entries⟩
        ⟨block.body ++ rest, ending⟩ =
      block.entry.leaving rest := by
  have bodyLength := block.body_length
  unfold readBody entry
  cases fault : firstFault? block.entries with
  | some fault =>
      cases length : lastLength? block.entries with
      | some length =>
          rw [length, Option.getD_some] at bodyLength
          subst bodyLength
          simp only [skipBytes_append, Entry.leaving]
      | none =>
          rw [length, Option.getD_none, List.length_eq_zero_iff] at bodyLength
          simp [bodyLength, Entry.leaving]
  | none =>
      cases length : lastLength? block.entries with
      | none =>
          rw [length, Option.getD_none, List.length_eq_zero_iff] at bodyLength
          simp [bodyLength, Entry.leaving]
      | some length =>
          rw [length, Option.getD_some] at bodyLength
          subst bodyLength
          by_cases oversized : greatestBody < block.body.length
          · simp only [oversized, if_true, skipBytes_append, Entry.leaving]
          · simp only [oversized, if_false, takeBytes_append]
            cases Json.parse block.body <;> rfl

theorem readWithin_eq
    (block : Block) {rest : List UInt8} {ending : StreamEnd}
    (fits : block.FitsBefore rest ending) {fuel : Nat} (enough : block.entries.length < fuel) :
    readWithin fuel ⟨block.bytes ++ rest, ending⟩ = block.entry.leaving rest := by
  have nonempty : (block.bytes ++ rest).isEmpty = false := by
    simp [block.bytes_ne_nil]
  have regrouped :
      block.bytes ++ rest =
        block.entries.flatMap HeaderEntry.line ++
          (block.separator ++ (block.body ++ rest)) := by
    simp [bytes, List.append_assoc]
  have headers :=
    readBlock_entries block.separator_blank (block.takeLine_separator fits)
      block.entries .empty fuel enough
  rw [foldl_add_eq] at headers
  simp only [HeaderBlock.empty, Option.or_none, Option.none_or] at headers
  unfold readWithin
  rw [nonempty, regrouped]
  simp only [Bool.false_and, Bool.false_eq_true, if_false, HeaderBlock.empty, headers]
  exact block.readBody_eq rest ending

/-- A block in front of any bytes is read as what it is and those bytes are left. -/
theorem read_append
    (block : Block) {rest : List UInt8} {ending : StreamEnd}
    (fits : block.FitsBefore rest ending) :
    read ⟨block.bytes ++ rest, ending⟩ = block.entry.leaving rest := by
  refine block.readWithin_eq fits ?_
  have bound := block.entries_length_lt_bytes_length
  simp only [List.length_append]
  omega

/-- Of a stream that begins with a block the block is read first. -/
theorem readAllFrom_bytes_append
    (block : Block) {rest : List UInt8} {ending : StreamEnd}
    (fits : block.FitsBefore rest ending) {fuel : Nat} (enough : block.entries.length ≤ fuel) :
    readAllFrom (fuel + 1) ⟨block.bytes ++ rest, ending⟩ =
      block.entry :: readAllFrom fuel ⟨rest, ending⟩ := by
  rw [readAllFrom, block.readWithin_eq fits (Nat.lt_succ_of_le enough)]
  cases entryEq : block.entry with
  | frame value => rfl
  | error fault => rfl
  | finished => exact absurd entryEq block.entry_ne_finished

/-- Each block of a list leaves its blank line as it is, with some bytes behind the last. -/
def Follow : List Block → List UInt8 → Prop
  | [], _ => True
  | block :: blocks, tail =>
      block.FitsBefore (blocks.flatMap bytes ++ tail) .closed ∧ Follow blocks tail

/-- Blocks in front of any bytes are read one by one. -/
theorem readAllFrom_append
    (blocks : List Block) (tail : List UInt8) (follow : Follow blocks tail) (fuel : Nat)
    (enough : (blocks.flatMap bytes ++ tail).length < fuel) :
    ∃ fuel', tail.length < fuel' ∧
      readAllFrom fuel ⟨blocks.flatMap bytes ++ tail, .closed⟩ =
        blocks.map entry ++ readAllFrom fuel' ⟨tail, .closed⟩ := by
  induction blocks generalizing fuel with
  | nil => exact ⟨fuel, by simpa using enough, by simp⟩
  | cons block blocks inductionHypothesis =>
      obtain ⟨fits, follow⟩ := follow
      obtain ⟨fuel, rfl⟩ := Nat.exists_eq_succ_of_ne_zero (Nat.ne_of_gt (Nat.zero_lt_of_lt enough))
      rw [List.flatMap_cons, List.append_assoc] at enough ⊢
      rw [List.length_append] at enough
      have lines := block.entries_length_lt_bytes_length
      obtain ⟨fuel', enough', readRest⟩ := inductionHypothesis follow fuel (by omega)
      refine ⟨fuel', enough', ?_⟩
      rw [block.readAllFrom_bytes_append fits (by omega), List.map_cons, List.cons_append,
        ← readRest]

/-- The first bytes of a stream are a block, or the reader is stopped in the middle of
one. -/
theorem readWithin_cases
    {bytes : List UInt8} (nonempty : bytes ≠ []) (ending : StreamEnd) :
    (∃ block rest, FitsBefore block rest ending ∧ bytes = block.bytes ++ rest) ∨
      ∃ part, ∀ fuel, bytes.length < fuel →
        readWithin fuel ⟨bytes, ending⟩ = ofStop (stopAt ending part) := by
  have notEmpty : bytes.isEmpty = false := List.isEmpty_eq_false_iff.mpr nonempty
  rcases readBlock_cases bytes ending with
    stopped | ⟨entries, separator, left, blank, separated, split⟩
  · exact Or.inr ⟨.headers, fun fuel _ => by simp [readWithin, notEmpty, stopped]⟩
  · -- The bytes that the last length counts are there, or the stream ends among them.
    by_cases enough : (lastLength? entries).getD 0 ≤ left.length
    · left
      let body := left.take ((lastLength? entries).getD 0)
      have ends :
          EndsInFeed separator ∨ (separator ≠ [] ∧ 0x0A ∉ separator ∧ body = []) := by
        rcases separated with terminated | ⟨separatorNonempty, absent, leftEmpty, _⟩
        · exact Or.inl terminated
        · exact Or.inr ⟨separatorNonempty, absent, by simp [body, leftEmpty]⟩
      refine ⟨⟨entries, separator, body, blank, ends, List.length_take_of_le enough⟩,
        left.drop ((lastLength? entries).getD 0), ?_, ?_⟩
      · rcases separated with terminated | ⟨_, _, leftEmpty, closed⟩
        · exact Or.inl terminated
        · exact Or.inr ⟨by simp [leftEmpty], closed⟩
      · simp [split, Block.bytes, body]
    · right
      have taken : takeLine ⟨separator ++ left, ending⟩ = .ok (separator, left) := by
        rcases separated with terminated | ⟨separatorNonempty, absent, rfl, rfl⟩
        · exact takeLine_of_endsInFeed terminated left ending
        · simpa using takeLine_of_last separatorNonempty absent
      have headers (fuel : Nat) (large : bytes.length < fuel) :
          readBlock fuel ⟨none, none⟩ ⟨bytes, ending⟩ =
            .ok (⟨lastLength? entries, firstFault? entries⟩, left) := by
        have lines := length_le_flatMap_line entries
        have fewer : entries.length < fuel := by
          rw [split, List.length_append] at large
          omega
        rw [split, readBlock_entries blank taken entries _ fuel fewer, foldl_add_eq]
        simp
      cases last : lastLength? entries with
      | none => simp [last] at enough
      | some length =>
          simp only [last, Option.getD_some] at enough headers
          have skipped := skipBytes_of_lt (Nat.lt_of_not_le enough) ending
          have cut := takeBytes_of_lt (Nat.lt_of_not_le enough) .body ending
          cases fault : firstFault? entries with
          | some fault =>
              refine ⟨.skippedBody, fun fuel large => ?_⟩
              simp [readWithin, notEmpty, HeaderBlock.empty, headers fuel large, readBody, fault,
                skipped]
          | none =>
              by_cases oversized : greatestBody < length
              · refine ⟨.skippedBody, fun fuel large => ?_⟩
                simp [readWithin, notEmpty, HeaderBlock.empty, headers fuel large, readBody, fault,
                  oversized, skipped]
              · refine ⟨.body, fun fuel large => ?_⟩
                simp [readWithin, notEmpty, HeaderBlock.empty, headers fuel large, readBody, fault,
                  oversized, cut]

/-- Every closed stream is a list of blocks, or some blocks and a last one that is
cut off. -/
theorem readAllFrom_closed_cases
    (fuel : Nat) (bytes : List UInt8) (enough : bytes.length < fuel) :
    (∃ blocks, Follow blocks [] ∧ bytes = blocks.flatMap Block.bytes) ∨
      ∃ blocks tail part,
        Follow blocks tail ∧ bytes = blocks.flatMap Block.bytes ++ tail ∧
          readAllFrom fuel ⟨bytes, .closed⟩ =
            blocks.map entry ++ [.error (.unexpectedEnd part)] := by
  induction fuel generalizing bytes with
  | zero => exact absurd enough (Nat.not_lt_zero _)
  | succ fuel inductionHypothesis =>
      by_cases nonempty : bytes = []
      · exact Or.inl ⟨[], trivial, nonempty⟩
      · rcases readWithin_cases nonempty .closed with
          ⟨block, rest, fits, split⟩ | ⟨part, fatal⟩
        · have lines := block.entries_length_lt_bytes_length
          have shorter : rest.length < fuel := by
            rw [split, List.length_append] at enough
            omega
          rcases inductionHypothesis rest shorter with
            ⟨blocks, follow, restEq⟩ | ⟨blocks, tail, part, follow, restEq, readRest⟩
          · refine Or.inl ⟨block :: blocks, ⟨?_, follow⟩, ?_⟩
            · simpa [← restEq] using fits
            · rw [split, restEq, List.flatMap_cons]
          · refine Or.inr ⟨block :: blocks, tail, part, ⟨?_, follow⟩, ?_, ?_⟩
            · rwa [← restEq]
            · rw [split, restEq, List.flatMap_cons, List.append_assoc]
            · rw [split, List.length_append] at enough
              rw [split, readAllFrom, block.readWithin_eq fits (by omega), List.map_cons,
                List.cons_append, ← readRest]
              cases entryEq : block.entry with
              | frame value => rfl
              | error fault => rfl
              | finished => exact absurd entryEq block.entry_ne_finished
        · refine Or.inr ⟨[], bytes, part, trivial, by simp, ?_⟩
          rw [readAllFrom, fatal (fuel + 1) enough]
          rfl

end Block

/-! ## Whole streams -/

/-- Reading resynchronizes: a block is read as what it is, by itself, and leaves the
bytes behind it; a list of blocks is read block by block up to a clean end; and every
other stream that was closed is some blocks and then one fatal end in a frame. -/
theorem read_resynchronizes :
    (∀ (block : Block) (rest : List UInt8) (ending : StreamEnd),
      block.FitsBefore rest ending →
        read ⟨block.bytes ++ rest, ending⟩ = block.entry.leaving rest) ∧
    (∀ blocks : List Block,
      Block.Follow blocks [] →
        readAll ⟨blocks.flatMap Block.bytes, .closed⟩ =
          blocks.map Block.entry ++ [.finished]) ∧
    (∀ bytes : List UInt8,
      (∃ blocks, Block.Follow blocks [] ∧ bytes = blocks.flatMap Block.bytes) ∨
        ∃ blocks tail part,
          Block.Follow blocks tail ∧ bytes = blocks.flatMap Block.bytes ++ tail ∧
            readAll ⟨bytes, .closed⟩ =
              blocks.map Block.entry ++ [.error (.unexpectedEnd part)]) := by
  refine ⟨fun block rest ending fits => block.read_append fits, ?_, ?_⟩
  · intro blocks follow
    obtain ⟨fuel, enough, readBlocks⟩ :=
      Block.readAllFrom_append blocks [] follow
        ((blocks.flatMap Block.bytes).length + 1) (by simp)
    rw [List.append_nil] at readBlocks
    obtain ⟨fuel, rfl⟩ := Nat.exists_eq_succ_of_ne_zero (Nat.ne_of_gt enough)
    rw [readAll, readBlocks]
    rfl
  · intro bytes
    exact Block.readAllFrom_closed_cases (bytes.length + 1) bytes (Nat.lt_succ_self _)

private theorem classifyLine_unreadable :
    classifyLine [0x58, 0x3A, 0xFF, 0x0A] = .faulty (.notUtf8 "X:\ufffd\n") := by
  decide +kernel

private theorem classifyLine_length :
    classifyLine [
      0x43, 0x6F, 0x6E, 0x74, 0x65, 0x6E, 0x74, 0x2D, 0x4C, 0x65, 0x6E, 0x67, 0x74, 0x68, 0x3A,
      0x32, 0x0A] = .length 2 := by
  decide +kernel

private theorem classifyLine_feed : classifyLine [0x0A] = .blank := by
  decide +kernel

/-- The header line `X:` with a byte that is no text, and nothing else. -/
def unreadableBlock : Block where
  entries := [{
    line := [0x58, 0x3A, 0xFF, 0x0A]
    meaning := .faulty (.notUtf8 "X:\ufffd\n")
    ends := ⟨[0x58, 0x3A, 0xFF], by decide, rfl⟩
    denotes := classifyLine_unreadable ▸ denotes_classifyLine _
    not_blank := by simp }]
  separator := [0x0A]
  body := []
  separator_blank := classifyLine_feed ▸ denotes_classifyLine _
  separator_ends := Or.inl ⟨[], by decide, rfl⟩
  body_length := rfl

def emptyObjectBlock : Block where
  entries := [{
    line := [
      0x43, 0x6F, 0x6E, 0x74, 0x65, 0x6E, 0x74, 0x2D, 0x4C, 0x65, 0x6E, 0x67, 0x74, 0x68, 0x3A,
      0x32, 0x0A]
    meaning := .length 2
    ends := ⟨[
      0x43, 0x6F, 0x6E, 0x74, 0x65, 0x6E, 0x74, 0x2D, 0x4C, 0x65, 0x6E, 0x67, 0x74, 0x68, 0x3A,
      0x32], by decide, rfl⟩
    denotes := classifyLine_length ▸ denotes_classifyLine _
    not_blank := by simp }]
  separator := [0x0A]
  body := [0x7B, 0x7D]
  separator_blank := classifyLine_feed ▸ denotes_classifyLine _
  separator_ends := Or.inl ⟨[], by decide, rfl⟩
  body_length := rfl

/-- The frame behind an unreadable header is read unharmed. -/
theorem read_resynchronizes_after_unreadable :
    Block.Follow [unreadableBlock, emptyObjectBlock] [] ∧
      readAll ⟨unreadableBlock.bytes ++ emptyObjectBlock.bytes, .closed⟩ =
        [.error (.malformedHeader (.notUtf8 "X:\ufffd\n")), .frame (.object []), .finished] := by
  have feedEnds : EndsInFeed [0x0A] := ⟨[], by decide, rfl⟩
  have follow : Block.Follow [unreadableBlock, emptyObjectBlock] [] :=
    ⟨Or.inl feedEnds, Or.inl feedEnds, trivial⟩
  refine ⟨follow, ?_⟩
  have readBlocks := read_resynchronizes.2.1 [unreadableBlock, emptyObjectBlock] follow
  have parsed : Json.parse emptyObjectBlock.body = .ok (.object []) := by decide +kernel
  have first :
      unreadableBlock.entry = .error (.malformedHeader (.notUtf8 "X:\ufffd\n")) := rfl
  have second : emptyObjectBlock.entry = .frame (.object []) := by
    unfold Block.entry
    rw [parsed]
    rfl
  simpa [first, second] using readBlocks

end LanguageClient.Frame

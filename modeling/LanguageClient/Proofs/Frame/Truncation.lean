import LanguageClient.Proofs.Frame.Written

/-!
# Frames cut short

The bytes of some frames, cut at any place: the frames in front of the cut are read,
and a rest that is not a whole frame is never read as one.  A sink that is full after
some bytes keeps what lies in front of such a cut.
-/

namespace LanguageClient.Frame

/-! ## A frame cut short -/

/-- A line whose first character is visible is not blank. -/
theorem classifyLine_ne_blank
    {c : Char} (ascii : c.toNat < 128) (visible : Text.isBlank c = false)
    (rest : List UInt8) :
    classifyLine (UInt8.ofNat c.toNat :: rest) ≠ .blank := by
  intro isBlank
  have denotes := denotes_classifyLine (UInt8.ofNat c.toNat :: rest)
  rw [isBlank] at denotes
  cases denotes with
  | blank decoded empty =>
      have first := Text.Utf8.head?_of_decode? ascii decoded
      obtain ⟨others, split⟩ := List.head?_eq_some_iff.mp first
      have front : (c :: others).dropWhile Text.isBlank = c :: others := by simp [visible]
      rw [Text.trimBlanks, split, front, List.reverse_eq_nil_iff,
        List.dropWhile_eq_nil_iff] at empty
      have blank : Text.isBlank c = true := empty c (by simp)
      rw [visible] at blank
      cases blank

private theorem return_blank : Denotes [0x0D] .blank := by
  have ascii : Text.Utf8.IsAscii ['\r'] := Text.Utf8.isAscii_of_all (by decide)
  exact Denotes.blank (Text.Utf8.decode?_of_isAscii ascii) (by decide)

/-- Bytes without a line feed end no header block unless they are blank. -/
theorem readBlock_of_unfinished
    {piece : List UInt8} (absent : 0x0A ∉ piece) (visible : classifyLine piece ≠ .blank)
    (ending : StreamEnd) (fuel : Nat) (block : HeaderBlock) :
    readBlock fuel block ⟨piece, ending⟩ = .error (stopAt ending .headers) := by
  by_cases empty : piece = []
  · rw [empty]
    exact readBlock_of_nothing fuel block ending
  · cases fuel with
    | zero => rfl
    | succ fuel =>
        by_cases closed : ending = .closed
        · subst closed
          simp only [readBlock, takeLine_of_last empty absent]
          exact readBlock_of_nothing fuel _ .closed
        · simp only [readBlock, takeLine_of_unfinished absent closed]

private theorem readWithin_of_stopped
    {bytes : List UInt8} (nonempty : bytes ≠ []) {ending : StreamEnd} {fuel : Nat} {stop : Stop}
    (stopped : readBlock fuel .empty ⟨bytes, ending⟩ = .error stop) :
    readWithin fuel ⟨bytes, ending⟩ = ofStop stop := by
  simp only [readWithin, List.isEmpty_eq_false_iff.mpr nonempty, Bool.false_and,
    Bool.false_eq_true, if_false, stopped]

/-- A header line cut short ends no header block. -/
private theorem readWithin_of_cutLine
    (length : Nat) {cut : Nat} (started : 0 < cut) (short : cut < (lengthLine length).length)
    (ending : StreamEnd) (fuel : Nat) :
    readWithin fuel ⟨(lengthLine length).take cut, ending⟩ =
      ofStop (stopAt ending .headers) := by
  obtain ⟨text, absent, whole⟩ := lengthLine_endsInFeed length
  obtain ⟨rest, front⟩ := lengthLine_eq_cons length
  obtain ⟨cut, rfl⟩ := Nat.exists_eq_succ_of_ne_zero (Nat.ne_of_gt started)
  have unended : 0x0A ∉ (lengthLine length).take (cut + 1) := by
    have within : cut + 1 ≤ text.length := by
      rw [whole, List.length_append, List.length_singleton] at short
      omega
    rw [whole, List.take_append_of_le_length within]
    exact fun member => absent (List.mem_of_mem_take member)
  have visible : classifyLine ((lengthLine length).take (cut + 1)) ≠ .blank := by
    rw [front, List.take_succ_cons]
    exact classifyLine_ne_blank (by decide) (by decide) _
  have nonempty : (lengthLine length).take (cut + 1) ≠ [] := by
    rw [front, List.take_succ_cons]
    exact List.cons_ne_nil _ _
  exact readWithin_of_stopped nonempty (readBlock_of_unfinished unended visible ending fuel _)

/-- A body with fewer bytes than its length is not there yet. -/
private theorem readBody_of_short
    {length : Nat} (fits : length ≤ greatestBody) {bytes : List UInt8}
    (short : bytes.length < length) (ending : StreamEnd) :
    readBody ⟨some length, none⟩ ⟨bytes, ending⟩ = ofStop (stopAt ending .body) := by
  simp only [readBody, Nat.not_lt_of_le fits, if_false, takeBytes_of_lt short]

/-- What stands behind a header line and stops before the end of the body. -/
private theorem readBlock_of_cutRest
    {body : List UInt8} (nonempty : body ≠ []) {cut : Nat} (short : cut < body.length + 2)
    (ending : StreamEnd) (fuel : Nat) (block : HeaderBlock) :
    readBlock (fuel + 1) block ⟨(frameSeparator ++ body).take cut, ending⟩ =
        .error (stopAt ending .headers) ∨
      ∃ rest, rest.length < body.length ∧
        readBlock (fuel + 1) block ⟨(frameSeparator ++ body).take cut, ending⟩ =
          .ok (block, rest) := by
  have some : 0 < body.length := List.length_pos_iff.mpr nonempty
  match cut with
  | 0 =>
      exact Or.inl (readBlock_of_nothing _ block ending)
  | 1 =>
      -- Only the carriage return is there: a blank line if nothing more can come.
      have blank : classifyLine [0x0D] = .blank := classifyLine_eq_of_denotes return_blank
      have return_ : (frameSeparator ++ body).take 1 = [0x0D] := rfl
      have absent : (0x0A : UInt8) ∉ [(0x0D : UInt8)] := by decide
      rw [return_]
      by_cases closed : ending = .closed
      · subst closed
        refine Or.inr ⟨[], some, ?_⟩
        simp only [readBlock, takeLine_of_last (List.cons_ne_nil _ _) absent, blank]
      · left
        simp only [readBlock, takeLine_of_unfinished absent closed]
  | cut + 2 =>
      have split : (frameSeparator ++ body).take (cut + 2) = frameSeparator ++ body.take cut := rfl
      refine Or.inr ⟨body.take cut, ?_, ?_⟩
      · rw [List.length_take]
        omega
      · rw [split, readBlock, takeLine_of_endsInFeed frameSeparator_endsInFeed]
        simp only [classifyLine_eq_of_denotes frameSeparator_blank]

/-- Bytes of a frame that stop before its end are nothing but a frame cut short. -/
theorem readWithin_of_cut
    {value : Json} (readsBack : ReadsBack value) {cut : Nat} (started : 0 < cut)
    (short : cut < (encode value).length) (ending : StreamEnd)
    {fuel : Nat} (enough : 1 < fuel) :
    ∃ part, readWithin fuel ⟨(encode value).take cut, ending⟩ = ofStop (stopAt ending part) := by
  obtain ⟨fuel, rfl⟩ : ∃ fuel', fuel = fuel' + 1 + 1 := ⟨fuel - 2, by omega⟩
  have nonempty := readsBack.body_ne_nil
  have fits := readsBack.fits
  rw [encode_eq] at short ⊢
  generalize Text.Utf8.encode value.render = body at *
  by_cases inLine : cut < (lengthLine body.length).length
  · rw [List.take_append_of_le_length (Nat.le_of_lt inLine)]
    exact ⟨_, readWithin_of_cutLine _ started inLine ending _⟩
  · obtain ⟨rest, rfl⟩ := Nat.exists_eq_add_of_le (Nat.le_of_not_lt inLine)
    let entry := headerEntry body.length (fits.trans (by decide))
    have restShort : rest < body.length + 2 := by
      simp only [List.length_append, frameSeparator, List.length_cons, List.length_nil] at short
      omega
    have lineRead : ∀ rest : List UInt8,
        readBlock (fuel + 1 + 1) .empty ⟨lengthLine body.length ++ rest, ending⟩ =
          readBlock (fuel + 1) ⟨some body.length, none⟩ ⟨rest, ending⟩ :=
      fun rest => readBlock_line entry rest ending (fuel + 1) .empty
    have lineNonempty : ∀ rest : List UInt8, lengthLine body.length ++ rest ≠ [] := by
      obtain ⟨others, front⟩ := lengthLine_eq_cons body.length
      rw [front]
      exact fun rest => List.cons_ne_nil _ _
    rw [List.take_length_add_append]
    rcases readBlock_of_cutRest nonempty restShort ending fuel ⟨some body.length, none⟩ with
      stopped | ⟨left, leftShort, done⟩
    · exact ⟨_, readWithin_of_stopped (lineNonempty _) ((lineRead _).trans stopped)⟩
    · refine ⟨.body, ?_⟩
      rw [← readBody_of_short fits leftShort ending]
      simp only [readWithin, List.isEmpty_eq_false_iff.mpr (lineNonempty _), Bool.false_and,
        Bool.false_eq_true, if_false, (lineRead _).trans done]

/-! ## Frames one after the other -/

theorem encode_ne_nil (value : Json) : encode value ≠ [] := by
  obtain ⟨rest, front⟩ := lengthLine_eq_cons (Text.Utf8.encode value.render).length
  rw [encode_eq, front]
  exact List.cons_ne_nil _ _

theorem length_encode_pos (value : Json) : 0 < (encode value).length :=
  List.length_pos_iff.mpr (encode_ne_nil value)

/-- How many of the frames lie whole within the first bytes. -/
def wholeFrames : (limit : Nat) → List Json → Nat
  | _, [] => 0
  | limit, value :: values =>
      if (encode value).length ≤ limit then
        wholeFrames (limit - (encode value).length) values + 1
      else 0

/-- The first bytes of the frames end with one of them, or are all there are. -/
def IsFrameBoundary (values : List Json) (limit : Nat) : Prop :=
  (values.flatMap encode).length ≤ limit ∨
    ∃ count, ((values.take count).flatMap encode).length = limit

theorem wholeFrames_zero (values : List Json) : wholeFrames 0 values = 0 := by
  cases values with
  | nil => rfl
  | cons value values =>
      have positive := length_encode_pos value
      exact if_neg (by omega)

theorem isFrameBoundary_zero (values : List Json) : IsFrameBoundary values 0 :=
  Or.inr ⟨0, rfl⟩

theorem isFrameBoundary_cons_of_le
    {value : Json} {limit : Nat} (fits : (encode value).length ≤ limit) (values : List Json) :
    IsFrameBoundary (value :: values) limit ↔
      IsFrameBoundary values (limit - (encode value).length) := by
  have positive := length_encode_pos value
  constructor
  · rintro (all | ⟨count, reached⟩)
    · rw [List.flatMap_cons, List.length_append] at all
      exact Or.inl (by omega)
    · cases count with
      | zero =>
          rw [List.take_zero, List.flatMap_nil, List.length_nil] at reached
          omega
      | succ count =>
          rw [List.take_succ_cons, List.flatMap_cons, List.length_append] at reached
          exact Or.inr ⟨count, by omega⟩
  · rintro (all | ⟨count, reached⟩)
    · left
      rw [List.flatMap_cons, List.length_append]
      omega
    · refine Or.inr ⟨count + 1, ?_⟩
      rw [List.take_succ_cons, List.flatMap_cons, List.length_append]
      omega

theorem not_isFrameBoundary_cons_of_lt
    {value : Json} {limit : Nat} (started : 0 < limit) (short : limit < (encode value).length)
    (values : List Json) :
    ¬ IsFrameBoundary (value :: values) limit := by
  rintro (all | ⟨count, reached⟩)
  · rw [List.flatMap_cons, List.length_append] at all
    omega
  · cases count with
    | zero =>
        rw [List.take_zero, List.flatMap_nil, List.length_nil] at reached
        omega
    | succ count =>
        rw [List.take_succ_cons, List.flatMap_cons, List.length_append] at reached
        omega

/-- The first bytes of some frames are whole frames and a part of the next one, which
is empty if the cut is at a boundary. -/
theorem take_flatMap_encode
    (values : List Json) (limit : Nat) :
    ∃ piece,
      (values.flatMap encode).take limit =
        (values.take (wholeFrames limit values)).flatMap encode ++ piece ∧
      (IsFrameBoundary values limit → piece = []) ∧
      (¬ IsFrameBoundary values limit →
        ∃ value cut, values[wholeFrames limit values]? = some value ∧ 0 < cut ∧
          cut < (encode value).length ∧ piece = (encode value).take cut) := by
  induction values generalizing limit with
  | nil =>
      exact ⟨[], by simp, fun _ => rfl, fun inside => absurd (Or.inl (Nat.zero_le _)) inside⟩
  | cons value values inductionHypothesis =>
      by_cases fits : (encode value).length ≤ limit
      · obtain ⟨piece, split, atBoundary, inside⟩ :=
          inductionHypothesis (limit - (encode value).length)
        have whole : wholeFrames limit (value :: values) =
            wholeFrames (limit - (encode value).length) values + 1 := if_pos fits
        rw [isFrameBoundary_cons_of_le fits]
        refine ⟨piece, ?_, atBoundary, fun cutInside => ?_⟩
        · rw [whole, List.take_succ_cons, List.flatMap_cons, List.flatMap_cons, List.append_assoc,
            ← split, List.take_append, List.take_of_length_le fits]
        · obtain ⟨last, cut, isNext, bounds⟩ := inside cutInside
          rw [whole]
          exact ⟨last, cut, isNext, bounds⟩
      · have short : limit < (encode value).length := Nat.lt_of_not_le fits
        have none : wholeFrames limit (value :: values) = 0 := if_neg fits
        refine ⟨(encode value).take limit, ?_, fun boundary => ?_, fun inside => ?_⟩
        · rw [none, List.flatMap_cons, List.take_append_of_le_length (Nat.le_of_lt short)]
          rfl
        · have nothing : limit = 0 := by
            by_contra started
            exact not_isFrameBoundary_cons_of_lt (Nat.pos_of_ne_zero started) short values boundary
          rw [nothing, List.take_zero]
        · have started : 0 < limit := by
            refine Nat.pos_of_ne_zero fun nothing => inside ?_
            rw [nothing]
            exact isFrameBoundary_zero _
          rw [none]
          exact ⟨value, limit, rfl, started, short, rfl⟩

/-! ## Reading -/

/-- The entry of a record that a stop of the reader makes. -/
def Stop.entries : Stop → List Entry
  | .error fault => [.error fault]
  | .blocked => []

theorem readAllFrom_of_stopped
    {stream : ByteStream} {fuel : Nat} {stop : Stop}
    (stopped : readWithin (fuel + 1) stream = ofStop stop) :
    readAllFrom (fuel + 1) stream = stop.entries := by
  rw [readAllFrom, stopped]
  cases stop with
  | error fault => rfl
  | blocked => rfl

/-- Frames in front of any bytes are read one by one. -/
theorem readAllFrom_frames
    {values : List Json} (readBack : ∀ value, value ∈ values → ReadsBack value)
    (tail : List UInt8) (ending : StreamEnd) (fuel : Nat)
    (enough : (values.flatMap encode ++ tail).length < fuel) :
    ∃ fuel', tail.length < fuel' ∧
      readAllFrom fuel ⟨values.flatMap encode ++ tail, ending⟩ =
        values.map Entry.frame ++ readAllFrom fuel' ⟨tail, ending⟩ := by
  induction values generalizing fuel with
  | nil => exact ⟨fuel, by simpa using enough, by simp⟩
  | cons value values inductionHypothesis =>
      have first : ReadsBack value := readBack value List.mem_cons_self
      have others : ∀ value, value ∈ values → ReadsBack value :=
        fun value member => readBack value (List.mem_cons_of_mem _ member)
      obtain ⟨fuel, rfl⟩ := Nat.exists_eq_succ_of_ne_zero (Nat.ne_of_gt (Nat.zero_lt_of_lt enough))
      rw [List.flatMap_cons, List.append_assoc] at enough ⊢
      rw [List.length_append] at enough
      have positive := length_encode_pos value
      obtain ⟨fuel', enough', readRest⟩ := inductionHypothesis others fuel (by omega)
      have lines : (Block.ofFrame value first).entries.length ≤ fuel := by
        rw [show (Block.ofFrame value first).entries.length = 1 from rfl]
        omega
      refine ⟨fuel', enough', ?_⟩
      rw [← Block.ofFrame_bytes value first,
        Block.readAllFrom_bytes_append _ (Or.inl (Block.ofFrame_isTerminated value first)) lines,
        Block.ofFrame_entry, List.map_cons, List.cons_append, ← readRest]

/-- What the reader comes to on the first bytes of some frames. -/
theorem readAll_take
    {values : List Json} (readBack : ∀ value, value ∈ values → ReadsBack value)
    (limit : Nat) (ending : StreamEnd) :
    ∃ tail,
      readAll ⟨(values.flatMap encode).take limit, ending⟩ =
        (values.take (wholeFrames limit values)).map Entry.frame ++ tail ∧
      (IsFrameBoundary values limit ∧ ending = .closed → tail = [.finished]) ∧
      (¬ (IsFrameBoundary values limit ∧ ending = .closed) →
        ∃ part, tail = (stopAt ending part).entries) := by
  obtain ⟨piece, split, atBoundary, inside⟩ := take_flatMap_encode values limit
  have readFront : ∀ value, value ∈ values.take (wholeFrames limit values) → ReadsBack value :=
    fun value member => readBack value (List.mem_of_mem_take member)
  obtain ⟨fuel, enough, readFrames⟩ :=
    readAllFrom_frames readFront piece ending _ (Nat.lt_succ_self _)
  obtain ⟨fuel, rfl⟩ := Nat.exists_eq_succ_of_ne_zero (Nat.ne_of_gt (Nat.zero_lt_of_lt enough))
  rw [split]
  refine ⟨_, readFrames, ?_, ?_⟩
  · rintro ⟨boundary, rfl⟩
    rw [atBoundary boundary]
    rfl
  · intro cutShort
    by_cases boundary : IsFrameBoundary values limit
    · have unclosed : ending ≠ .closed := fun closed => cutShort ⟨boundary, closed⟩
      refine ⟨.headers, readAllFrom_of_stopped ?_⟩
      rw [atBoundary boundary, readWithin, readBlock_of_nothing]
      simp [unclosed]
    · obtain ⟨value, cut, isNext, started, short, rfl⟩ := inside boundary
      have started' : 1 < fuel + 1 := by
        rw [List.length_take] at enough
        omega
      obtain ⟨part, stopped⟩ :=
        readWithin_of_cut (readBack value (List.mem_of_getElem? isNext)) started short ending started'
      exact ⟨part, readAllFrom_of_stopped stopped⟩

/-! ## Writing -/

namespace Sink

theorem write_of_le
    {bytes : List UInt8} {room : Nat} (fits : bytes.length ≤ room) (written : List UInt8) :
    Sink.write ⟨written, some room⟩ bytes =
      (.ok (), ⟨written ++ bytes, some (room - bytes.length)⟩) := by
  simp only [write, List.take_of_length_le fits, if_true]

theorem write_of_lt
    {bytes : List UInt8} {room : Nat} (short : room < bytes.length) (written : List UInt8) :
    Sink.write ⟨written, some room⟩ bytes =
      (.error (.io fullMessage), ⟨written ++ bytes.take room, some 0⟩) := by
  have kept : (bytes.take room).length = room := by
    rw [List.length_take]
    omega
  simp only [write, kept, Nat.ne_of_lt short, if_false, Nat.sub_self]

/-- A sink takes the frames that it has room for, and the first bytes of the next one. -/
theorem writeFrames_eq
    (values : List Json) (written : List UInt8) (room : Nat) :
    Sink.writeFrames ⟨written, some room⟩ values =
      (List.replicate (wholeFrames room values) (.ok ()) ++
          List.replicate (values.length - wholeFrames room values) (.error (.io fullMessage)),
        ⟨written ++ (values.flatMap encode).take room,
          some (room - (values.flatMap encode).length)⟩) := by
  induction values generalizing written room with
  | nil => simp [writeFrames, wholeFrames]
  | cons value values inductionHypothesis =>
      by_cases fits : (encode value).length ≤ room
      · have whole : wholeFrames room (value :: values) =
            wholeFrames (room - (encode value).length) values + 1 := if_pos fits
        rw [writeFrames, writeFrame, write_of_le fits]
        simp only [inductionHypothesis, whole, List.replicate_succ, List.cons_append,
          List.length_cons, Nat.add_sub_add_right, List.flatMap_cons, List.take_append,
          List.take_of_length_le fits, List.length_append, Nat.sub_sub, List.append_assoc]
      · have short : room < (encode value).length := Nat.lt_of_not_le fits
        have none : wholeFrames room (value :: values) = 0 := if_neg fits
        have full : room - ((encode value).length + (values.flatMap encode).length) = 0 := by
          omega
        rw [writeFrames, writeFrame, write_of_lt short]
        simp only [inductionHypothesis, none, wholeFrames_zero, List.replicate_zero,
          List.nil_append, Nat.sub_zero, List.length_cons, List.replicate_succ, List.take_zero,
          List.append_nil, Nat.zero_sub, List.flatMap_cons, List.length_append, full,
          List.take_append_of_le_length (Nat.le_of_lt short)]

end Sink

theorem wholeFrames_le_length (limit : Nat) (values : List Json) :
    wholeFrames limit values ≤ values.length := by
  induction values generalizing limit with
  | nil => exact Nat.le_refl 0
  | cons value values inductionHypothesis =>
      rw [wholeFrames]
      split
      · exact Nat.succ_le_succ (inductionHypothesis _)
      · exact Nat.zero_le _

/-- Of frames that are written into a sink with little room exactly those are read that
were written without an error.  Behind them the stream is over if the sink was full
between two frames or never, and otherwise it is lost. -/
theorem readAll_writeFrames
    (values : List Json) (readBack : ∀ value, value ∈ values → ReadsBack value) (limit : Nat) :
    ∃ (accepted refused : List Json) (last : Entry),
      values = accepted ++ refused ∧
      ((Sink.empty (some limit)).writeFrames values).1 =
        accepted.map (fun _ => .ok ()) ++
          refused.map (fun _ => .error (.io Sink.fullMessage)) ∧
      ((Sink.empty (some limit)).writeFrames values).2.written =
        (values.flatMap encode).take limit ∧
      readAll ⟨((Sink.empty (some limit)).writeFrames values).2.written, .closed⟩ =
        accepted.map Entry.frame ++ [last] ∧
      (IsFrameBoundary values limit → last = .finished) ∧
      (¬ IsFrameBoundary values limit → ∃ part, last = .error (.unexpectedEnd part)) ∧
      ∀ fault, last = .error fault → fault.isFatal = true := by
  obtain ⟨tail, readTaken, atBoundary, inside⟩ := readAll_take readBack limit .closed
  have writes := Sink.writeFrames_eq values [] limit
  have count := wholeFrames_le_length limit values
  have written : ((Sink.empty (some limit)).writeFrames values).2.written =
      (values.flatMap encode).take limit := by
    rw [Sink.empty, writes, List.nil_append]
  have results : ((Sink.empty (some limit)).writeFrames values).1 =
      (values.take (wholeFrames limit values)).map (fun _ => .ok ()) ++
        (values.drop (wholeFrames limit values)).map
          (fun _ => .error (.io Sink.fullMessage)) := by
    rw [Sink.empty, writes, List.map_const', List.map_const', List.length_take,
      List.length_drop, Nat.min_eq_left count]
  rw [← written] at readTaken
  by_cases boundary : IsFrameBoundary values limit
  · rw [atBoundary ⟨boundary, rfl⟩] at readTaken
    exact ⟨_, _, .finished, (List.take_append_drop _ values).symm, results, written, readTaken,
      fun _ => rfl, fun cutShort => absurd boundary cutShort, nofun⟩
  · obtain ⟨part, rfl⟩ := inside fun both => boundary both.1
    refine ⟨_, _, .error (.unexpectedEnd part), (List.take_append_drop _ values).symm, results,
      written, readTaken, fun atEnd => absurd atEnd boundary, fun _ => ⟨part, rfl⟩, ?_⟩
    rintro fault equality
    injection equality with same
    rw [← same]
    rfl

private theorem readsBack_null : ReadsBack .null :=
  ⟨by decide +kernel, by decide +kernel⟩

private theorem readsBack_letter : ReadsBack (.string "é") :=
  ⟨by decide +kernel, by decide +kernel⟩

private theorem eq_null_of_results
    {accepted refused : List Json} (split : [.null, .string "é"] = accepted ++ refused)
    (told : ([.ok (), .error (.io Sink.fullMessage)] : List (Except FrameError Unit)) =
      accepted.map (fun _ => .ok ()) ++
        refused.map (fun _ => .error (.io Sink.fullMessage))) :
    accepted = [.null] := by
  match accepted with
  | [] =>
      cases refused with
      | nil => cases split
      | cons first rest => cases told
  | [value] =>
      injection split with same _
      rw [← same]
  | first :: second :: rest => cases told

/-- A sink that is full in the middle of a letter: the frame with the letter is not
written, and not read. -/
theorem readAll_writeFrames_cutLetter :
    (∀ value, value ∈ [Json.null, .string "é"] → ReadsBack value) ∧
      ((Sink.empty (some 48)).writeFrames [.null, .string "é"]).1 =
        [.ok (), .error (.io Sink.fullMessage)] ∧
      ∃ part,
        readAll ⟨((Sink.empty (some 48)).writeFrames [.null, .string "é"]).2.written, .closed⟩ =
          [.frame .null, .error (.unexpectedEnd part)] := by
  have readBack : ∀ value, value ∈ [Json.null, .string "é"] → ReadsBack value := by
    intro value member
    simp only [List.mem_cons, List.not_mem_nil, or_false] at member
    rcases member with rfl | rfl
    · exact readsBack_null
    · exact readsBack_letter
  have first : (encode .null).length = 25 := by decide +kernel
  have second : (encode (.string "é")).length = 25 := by decide +kernel
  have inside : ¬ IsFrameBoundary [.null, .string "é"] 48 := by
    rw [isFrameBoundary_cons_of_le (by omega), first]
    exact not_isFrameBoundary_cons_of_lt (by decide) (by omega) []
  have whole : wholeFrames 48 [.null, .string "é"] = 1 := by
    simp [wholeFrames, first, second]
  have results : ((Sink.empty (some 48)).writeFrames [.null, .string "é"]).1 =
      [.ok (), .error (.io Sink.fullMessage)] := by
    rw [Sink.empty, Sink.writeFrames_eq, whole]
    rfl
  obtain ⟨accepted, refused, last, split, told, _, recorded, _, cutShort, _⟩ :=
    readAll_writeFrames [.null, .string "é"] readBack 48
  obtain ⟨part, rfl⟩ := cutShort inside
  rw [results] at told
  rw [eq_null_of_results split told] at recorded
  exact ⟨readBack, results, part, recorded⟩

end LanguageClient.Frame

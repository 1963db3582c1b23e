import LanguageClient.Proofs.Frame.Resynchronization

/-!
# Streams that grow

A stream is read while it still comes in.  What an attempt reads does not depend on the
bytes that come later, so the record of the whole stream is what was read so far and then
the record of the rest.
-/

namespace LanguageClient.Frame

/-! ## One attempt -/

namespace Outcome

/-- The entry that an attempt adds to the record of a stream. -/
def taken? : Outcome → Option Entry
  | .frame value _ => some (.frame value)
  | .malformed error _ | .fatal error => some (.error error)
  | .finished => some .finished
  | .blocked => none

/-- The bytes behind an attempt, if the reader goes on there. -/
def rest? : Outcome → Option (List UInt8)
  | .frame _ rest | .malformed _ rest => some rest
  | .fatal _ | .finished | .blocked => none

end Outcome

namespace Block

theorem rest?_leaving (block : Block) (rest : List UInt8) :
    (block.entry.leaving rest).rest? = some rest := by
  cases entryEq : block.entry with
  | finished => exact absurd entryEq block.entry_ne_finished
  | frame | error => rfl

theorem taken?_leaving (block : Block) (rest : List UInt8) :
    (block.entry.leaving rest).taken? = some block.entry := by
  cases entryEq : block.entry with
  | finished => exact absurd entryEq block.entry_ne_finished
  | frame | error => rfl

end Block

theorem rest?_ofStop (stop : Stop) : (ofStop stop).rest? = none := by
  cases stop <;> rfl

/-- What a stream begins with, and what an attempt to read it comes to. -/
inductive Beginning : ByteStream → Outcome → Prop
  | block (block : Block) (rest : List UInt8) (ending : StreamEnd) :
      block.FitsBefore rest ending →
      Beginning ⟨block.bytes ++ rest, ending⟩ (block.entry.leaving rest)
  /-- A closed stream of no bytes is over. -/
  | nothing : Beginning ⟨[], .closed⟩ .finished
  /-- The bytes are not enough for a block. -/
  | cut (stream : ByteStream) (part : FramePart) :
      Beginning stream (ofStop (stopAt stream.ending part))

/-- With fuel enough an attempt comes to one and the same. -/
private theorem exists_beginning (stream : ByteStream) :
    ∃ outcome, Beginning stream outcome ∧
      ∀ fuel, stream.bytes.length < fuel → readWithin fuel stream = outcome := by
  obtain ⟨bytes, ending⟩ := stream
  by_cases empty : bytes = []
  · subst empty
    by_cases closed : ending = .closed
    · subst closed
      exact ⟨.finished, .nothing, fun _ _ => rfl⟩
    · refine ⟨_, .cut ⟨[], ending⟩ .headers, fun fuel _ => ?_⟩
      simp [readWithin, closed, readBlock_of_nothing]
  · rcases Block.readWithin_cases empty ending with ⟨block, rest, fits, rfl⟩ | ⟨part, stopped⟩
    · refine ⟨_, .block block rest ending fits, fun fuel enough => ?_⟩
      have lines := block.entries_length_lt_bytes_length
      apply block.readWithin_eq fits
      simp only [List.length_append] at enough
      omega
    · exact ⟨_, .cut ⟨bytes, ending⟩ part, stopped⟩

theorem readWithin_eq_read
    {stream : ByteStream} {fuel : Nat} (enough : stream.bytes.length < fuel) :
    readWithin fuel stream = read stream := by
  obtain ⟨outcome, _, reads⟩ := exists_beginning stream
  exact (reads fuel enough).trans (reads _ (Nat.lt_succ_self _)).symm

theorem read_beginning (stream : ByteStream) : Beginning stream (read stream) := by
  obtain ⟨outcome, begins, reads⟩ := exists_beginning stream
  have same : read stream = outcome := reads _ (Nat.lt_succ_self _)
  exact same ▸ begins

/-- An attempt after which the reader goes on uses up a byte at least. -/
theorem length_lt_of_rest?
    {stream : ByteStream} {rest : List UInt8} (goesOn : (read stream).rest? = some rest) :
    rest.length < stream.bytes.length := by
  have begins := read_beginning stream
  generalize read stream = outcome at begins goesOn
  cases begins with
  | block block behind ending fits =>
      rw [block.rest?_leaving] at goesOn
      injection goesOn with same
      have some : 0 < block.bytes.length := List.length_pos_iff.mpr block.bytes_ne_nil
      simp only [same, List.length_append]
      omega
  | nothing => cases goesOn
  | cut stream part =>
      rw [rest?_ofStop] at goesOn
      cases goesOn

/-- An attempt that reads an entry of an open stream reads the same entry whatever comes
behind the bytes that are there. -/
theorem read_append_of_open
    {bytes rest : List UInt8} (goesOn : (read ⟨bytes, .open⟩).rest? = some rest)
    (more : List UInt8) (ending : StreamEnd) :
    (read ⟨bytes ++ more, ending⟩).rest? = some (rest ++ more) ∧
      (read ⟨bytes ++ more, ending⟩).taken? = (read ⟨bytes, .open⟩).taken? := by
  have begins := read_beginning ⟨bytes, .open⟩
  generalize read ⟨bytes, .open⟩ = outcome at begins goesOn
  generalize streamEq : (⟨bytes, .open⟩ : ByteStream) = stream at begins
  cases begins with
  | block block behind opening fits =>
      injection streamEq with sameBytes sameEnding
      subst sameBytes sameEnding
      have terminated : block.IsTerminated := fits.resolve_right nofun
      rw [block.rest?_leaving] at goesOn
      injection goesOn with same
      subst same
      have again : read ⟨block.bytes ++ (behind ++ more), ending⟩ =
          block.entry.leaving (behind ++ more) :=
        block.read_append (Or.inl terminated)
      rw [List.append_assoc, again, block.rest?_leaving, block.taken?_leaving,
        block.taken?_leaving]
      exact ⟨rfl, rfl⟩
  | nothing => cases goesOn
  | cut stream part => subst streamEq; cases goesOn

/-- The reader of an open stream goes on or waits. -/
theorem read_open (bytes : List UInt8) :
    (∃ rest, (read ⟨bytes, .open⟩).rest? = some rest) ∨ read ⟨bytes, .open⟩ = .blocked := by
  have begins := read_beginning ⟨bytes, .open⟩
  generalize read ⟨bytes, .open⟩ = outcome at begins
  generalize streamEq : (⟨bytes, .open⟩ : ByteStream) = stream at begins
  cases begins with
  | block block behind ending fits => exact Or.inl ⟨behind, block.rest?_leaving behind⟩
  | nothing => cases streamEq
  | cut stream part => subst streamEq; exact Or.inr rfl

/-- A stream is over only between two frames, when it was closed. -/
theorem eq_of_read_finished {stream : ByteStream} (isOver : read stream = .finished) :
    stream = ⟨[], .closed⟩ := by
  have begins := read_beginning stream
  rw [isOver] at begins
  generalize outcomeEq : Outcome.finished = outcome at begins
  cases begins with
  | block block rest ending fits =>
      have goesOn := block.rest?_leaving rest
      rw [← outcomeEq] at goesOn
      cases goesOn
  | nothing => rfl
  | cut stream part => cases ending : stream.ending <;> rw [ending] at outcomeEq <;> cases outcomeEq

/-- A fatal error is the end of a closed stream in the middle of a frame, or the failure of
the stream. -/
theorem ending_of_read_fatal
    {stream : ByteStream} {error : FrameError} (fatal : read stream = .fatal error) :
    (∃ part, error = .unexpectedEnd part ∧ stream.ending = .closed) ∨
      ∃ message, error = .io message ∧ stream.ending = .failed message := by
  have begins := read_beginning stream
  rw [fatal] at begins
  generalize outcomeEq : Outcome.fatal error = outcome at begins
  cases begins with
  | block block rest ending fits =>
      have goesOn := block.rest?_leaving rest
      rw [← outcomeEq] at goesOn
      cases goesOn
  | nothing => cases outcomeEq
  | cut stream part =>
      cases ending : stream.ending with
      | closed =>
          rw [ending] at outcomeEq
          exact Or.inl ⟨part, Outcome.fatal.inj outcomeEq, rfl⟩
      | failed message =>
          rw [ending] at outcomeEq
          exact Or.inr ⟨message, Outcome.fatal.inj outcomeEq, rfl⟩
      | «open» => rw [ending] at outcomeEq; cases outcomeEq

/-! ## The record of a stream -/

theorem readAllFrom_eq_readAll
    {stream : ByteStream} {fuel : Nat} (enough : stream.bytes.length < fuel) :
    readAllFrom fuel stream = readAll stream := by
  induction counted : stream.bytes.length using Nat.strong_induction_on generalizing stream fuel with
  | _ count inductionHypothesis =>
      -- Behind an entry fewer bytes are left, for which both amounts of fuel are enough.
      obtain ⟨fuel, rfl⟩ := Nat.exists_eq_succ_of_ne_zero (Nat.ne_of_gt (Nat.zero_lt_of_lt enough))
      have goes (rest : List UInt8) (goesOn : (read stream).rest? = some rest) :
          readAllFrom fuel ⟨rest, stream.ending⟩ =
            readAllFrom stream.bytes.length ⟨rest, stream.ending⟩ := by
        have shorter := length_lt_of_rest? goesOn
        have fewer : rest.length < fuel := by omega
        rw [inductionHypothesis rest.length (counted ▸ shorter) fewer rfl,
          inductionHypothesis rest.length (counted ▸ shorter) shorter rfl]
      rw [readAll, readAllFrom, readAllFrom, readWithin_eq_read enough,
        readWithin_eq_read (Nat.lt_succ_self _)]
      cases outcome : read stream with
      | frame value rest => simp only [goes rest (by rw [outcome]; rfl)]
      | malformed error rest => simp only [goes rest (by rw [outcome]; rfl)]
      | fatal | finished | blocked => rfl

/-- The record of a stream begins with what the first attempt reads and goes on behind
it. -/
theorem readAll_eq (stream : ByteStream) :
    readAll stream =
      (read stream).taken?.toList ++
        ((read stream).rest?.elim [] fun rest => readAll ⟨rest, stream.ending⟩) := by
  have goes (rest : List UInt8) (goesOn : (read stream).rest? = some rest) :
      readAllFrom stream.bytes.length ⟨rest, stream.ending⟩ = readAll ⟨rest, stream.ending⟩ :=
    readAllFrom_eq_readAll (length_lt_of_rest? goesOn)
  rw [readAll, readAllFrom, readWithin_eq_read (Nat.lt_succ_self _)]
  cases outcome : read stream with
  | frame value rest => simp [goes rest (by rw [outcome]; rfl), Outcome.taken?, Outcome.rest?]
  | malformed error rest => simp [goes rest (by rw [outcome]; rfl), Outcome.taken?, Outcome.rest?]
  | fatal | finished | blocked => rfl

/-! ## What is still to come -/

/-- What can come behind the bytes of a stream that has some end: nothing, or anything if
the stream is open. -/
inductive Continues (ending : StreamEnd) : List UInt8 → StreamEnd → Prop
  | nothing : Continues ending [] ending
  | more (bytes : List UInt8) (ending' : StreamEnd) :
      ending = .open →
      Continues ending bytes ending'

/-- What was read before the rest of the stream came in stands in front of the record of
the whole stream. -/
theorem readAll_append_of_rest?
    {stream : ByteStream} {rest : List UInt8} (goesOn : (read stream).rest? = some rest)
    {more : List UInt8} {ending : StreamEnd} (continues : Continues stream.ending more ending) :
    readAll ⟨stream.bytes ++ more, ending⟩ =
      (read stream).taken?.toList ++ readAll ⟨rest ++ more, ending⟩ := by
  cases continues with
  | nothing =>
      rw [List.append_nil, List.append_nil, readAll_eq, goesOn]
      rfl
  | more _ _ isOpen =>
      obtain ⟨bytes, _⟩ := stream
      cases isOpen
      obtain ⟨restEq, entryEq⟩ := read_append_of_open goesOn more ending
      rw [readAll_eq, restEq, entryEq]
      rfl

end LanguageClient.Frame

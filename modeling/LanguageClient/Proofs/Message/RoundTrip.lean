import LanguageClient.Message.Basic
import LanguageClient.Operation.Sending
import LanguageClient.Proofs.Frame.Truncation
import LanguageClient.Proofs.Json.Record

/-!
# Messages on the wire

A message that is written as a frame, read from the stream and classified is the message
again, whatever its identifier, its parameters and its outcome look like.  The one thing
that is lost is the difference between null data of an error and no data.
-/

namespace LanguageClient

/-! ## Errors -/

namespace ResponseError

/-- A code of sixty-four bits. -/
def HasCode (error : ResponseError) : Prop :=
  -2 ^ 63 ≤ error.code ∧ error.code < 2 ^ 63

instance (error : ResponseError) : Decidable error.HasCode :=
  inferInstanceAs (Decidable (_ ∧ _))

/-- The error as it is read again: null data is no data. -/
def received (error : ResponseError) : ResponseError :=
  { error with data := error.data.filter fun data => !data.isNull }

/-- Nothing but null data is lost. -/
theorem received_eq_self {error : ResponseError} (noNull : error.data ≠ some .null) :
    error.received = error := by
  obtain ⟨code, message, data⟩ := error
  cases data with
  | none => rfl
  | some data =>
      cases data with
      | null => exact absurd rfl noNull
      | bool | number | string | array | object => rfl

private theorem get?_members (error : ResponseError) :
    Json.Members.get? (Json.Members.ofList error.members) "code" = some (.int error.code) ∧
      Json.Members.get? (Json.Members.ofList error.members) "message" =
        some (.string error.message) ∧
      Json.Members.get? (Json.Members.ofList error.members) "data" = error.data := by
  simp only [Json.Members.get?_ofList]
  cases data : error.data <;> simp [members, data, Json.Members.get?]

/-- An error is read back from its object. -/
theorem decode_toJson {error : ResponseError} (hasCode : error.HasCode) :
    decode error.toJson = .ok error.received := by
  have inOrder := Json.Members.inOrder_ofList error.members
  obtain ⟨foundCode, foundMessage, foundData⟩ := get?_members error
  have code : Json.decodeInt 64 (.int error.code) = .ok error.code :=
    Json.decodeInt_eq_ok_iff.mpr ⟨rfl, hasCode⟩
  refine (Json.decodeRecord3_object_eq_ok_iff inOrder).mpr
    ⟨error.code, error.message, error.received.data, ?_, ?_, ?_, rfl⟩
  · rw [Json.Field.name_required, foundCode]
    exact Json.Field.holds_required_iff.mpr ⟨_, rfl, code⟩
  · rw [Json.Field.name_required, foundMessage]
    exact Json.Field.holds_required_string_iff.mpr rfl
  · rw [Json.Field.name_optional, foundData]
    exact Json.Field.holds_optional_any_iff.mpr rfl

end ResponseError

/-! ## Classification -/

def Answer.received : Answer → Answer
  | .ok result => .ok result
  | .error error => .error error.received

def Outgoing.incoming : Outgoing → Incoming
  | .request id method params => .request (.nat id) method params
  | .notification method params => .notification method params
  | .response id answer => .response id answer.received

/-- If a message carries an error, that has a code of sixty-four bits. -/
def Outgoing.HasCode : Outgoing → Prop
  | .response _ (.error error) => error.HasCode
  | _ => True

instance : (message : Outgoing) → Decidable message.HasCode
  | .response _ (.error error) => inferInstanceAs (Decidable error.HasCode)
  | .response _ (.ok _) | .request _ _ _ | .notification _ _ => isTrue trivial

namespace Incoming

def params? : Incoming → Option Json
  | .request _ _ params | .notification _ params => params
  | .response _ _ => none

theorem member?_of_params?
    {value params : Json} {incoming : Incoming} (classified : ofJson? value = some incoming)
    (isParams : incoming.params? = some params) :
    value.member? "params" = some params := by
  unfold ofJson? at classified
  split at classified
  · rename_i members
    dsimp only at classified
    split at classified
    · cases classified
      exact isParams
    · cases classified
      exact isParams
    · cases classified
    · obtain ⟨answer, _, rfl⟩ := Option.map_eq_some_iff.mp classified
      cases isParams
    · cases classified
  · cases classified

/-- The parameters of a message that is read from text have their objects in order. -/
theorem isOrdered_params
    {text : List UInt8} {value params : Json} {incoming : Incoming}
    (parsed : Json.parse text = .ok value) (classified : ofJson? value = some incoming)
    (isParams : incoming.params? = some params) :
    params.isOrdered := by
  have found := member?_of_params? classified isParams
  cases value with
  | object members => exact Json.isOrdered_of_get? (Json.isOrdered_of_parse parsed) found
  | _ => cases found

theorem readError_toJson {error : ResponseError} (hasCode : error.HasCode) :
    readError error.toJson = error.received := by
  simp only [readError, error.decode_toJson hasCode]

/-- A message of the client is classified as the message that it is. -/
theorem ofJson?_toJson {message : Outgoing} (hasCode : message.HasCode) :
    ofJson? message.toJson = some message.incoming := by
  cases message with
  | request id method params =>
      cases params with
      | none | some params => rfl
  | notification method params =>
      cases params with
      | none | some params => rfl
  | response id answer =>
      cases answer with
      | ok result => rfl
      | error error =>
          -- The object of an error is not null, so it is the answer.
          have classified : ofJson? (Outgoing.response id (.error error)).toJson =
              some (.response id (.error (readError error.toJson))) := rfl
          rw [classified, readError_toJson hasCode]
          rfl

end Incoming

/-! ## Streams -/

namespace Frame

/-- A sink without bound takes all frames. -/
theorem Sink.writeFrames_unbounded (values : List Json) (written : List UInt8) :
    Sink.writeFrames ⟨written, none⟩ values =
      (values.map fun _ => .ok (), ⟨written ++ values.flatMap encode, none⟩) := by
  induction values generalizing written with
  | nil => simp [writeFrames]
  | cons value values inductionHypothesis =>
      rw [writeFrames, writeFrame, write]
      simp only [inductionHypothesis, List.map_cons, List.flatMap_cons, List.append_assoc]

/-- A frame in front of any bytes is read, and these bytes are left. -/
theorem read_encode_append
    {value : Json} (readsBack : ReadsBack value) (rest : List UInt8) (ending : StreamEnd) :
    read ⟨encode value ++ rest, ending⟩ = .frame value rest := by
  have taken : read ⟨(Block.ofFrame value readsBack).bytes ++ rest, ending⟩ =
      (Block.ofFrame value readsBack).entry.leaving rest :=
    Block.read_append _ (Or.inl (Block.ofFrame_isTerminated value readsBack))
  rwa [Block.ofFrame_bytes, Block.ofFrame_entry] at taken

end Frame

/-- A message that can travel: its error has a code of sixty-four bits, and its frame has
room for its text, from which it is read back. -/
structure Outgoing.Travels (message : Outgoing) : Prop where
  hasCode : message.HasCode
  readsBack : Frame.ReadsBack message.toJson

namespace Outgoing

theorem Travels.readsBack_of_mem_map
    {messages : List Outgoing} (travel : ∀ message, message ∈ messages → message.Travels)
    (value : Json) (member : value ∈ messages.map toJson) :
    Frame.ReadsBack value := by
  obtain ⟨message, isMessage, rfl⟩ := List.mem_map.mp member
  exact (travel message isMessage).readsBack

/-- Messages that are written one after the other are read one after the other, and behind
the last the stream is over: no frame is refused and none is read that was not written.  Each
is classified as the message that it is, with its identifier, method, parameters and outcome.
A message is read alike in front of any bytes and on a stream that ends in any way. -/
theorem incoming_of_writeFrames
    {messages : List Outgoing}
    (travel : ∀ message, message ∈ messages → message.Travels) :
    ((Frame.Sink.empty none).writeFrames (messages.map toJson)).1 =
        messages.map (fun _ => .ok ()) ∧
      Frame.readAll
          ⟨((Frame.Sink.empty none).writeFrames (messages.map toJson)).2.written, .closed⟩ =
        messages.map (fun message => .frame message.toJson) ++ [.finished] ∧
      ∀ message, message ∈ messages →
        Incoming.ofJson? message.toJson = some message.incoming ∧
          ∀ rest ending,
            Frame.read ⟨message.frame ++ rest, ending⟩ = .frame message.toJson rest := by
  have readBack := Travels.readsBack_of_mem_map travel
  have writes := Frame.Sink.writeFrames_unbounded (messages.map toJson) []
  obtain ⟨fuel, enough, reads⟩ := Frame.readAllFrom_frames readBack [] .closed
    (((messages.map toJson).flatMap Frame.encode).length + 1) (by simp)
  have ended : Frame.readAllFrom fuel ⟨[], .closed⟩ = [.finished] := by
    obtain ⟨fuel, rfl⟩ := Nat.exists_eq_succ_of_ne_zero (Nat.ne_of_gt enough)
    rfl
  refine ⟨?_, ?_, fun message member => ⟨?_, fun rest ending => ?_⟩⟩
  · rw [Frame.Sink.empty, writes, List.map_map]
    rfl
  · rw [Frame.Sink.empty, writes, List.nil_append, Frame.readAll]
    rw [List.append_nil, ended, List.map_map] at reads
    exact reads
  · exact Incoming.ofJson?_toJson (travel message member).hasCode
  · exact Frame.read_encode_append (travel message member).readsBack rest ending

/-- Messages whose methods, identifiers, parameters and outcomes look like members of an
envelope, with null wherever it may stand. -/
def lookalikes : List Outgoing :=
  let envelope : Json := .ofMembers [("id", .nat 1), ("method", .string "m")]
  [.request 18446744073709551615 "id" none, .request 0 "error" (some .null),
    .notification "result" (some envelope), .response .null (.ok .null),
    .response envelope (.ok (.ofMembers [("error", .null)])),
    .response (.string "é")
      (.error { code := -9223372036854775808, message := "", data := some .null })]

theorem incoming_of_writeFrames_lookalikes :
    (∀ message, message ∈ lookalikes → message.Travels) ∧
      Frame.readAll
          ⟨((Frame.Sink.empty none).writeFrames (lookalikes.map toJson)).2.written, .closed⟩ =
        lookalikes.map (fun message => .frame message.toJson) ++ [.finished] := by
  have travel : ∀ message, message ∈ lookalikes → message.Travels := by
    simp only [lookalikes, List.forall_mem_cons, List.not_mem_nil, false_imp_iff, implies_true,
      and_true]
    refine ⟨?_, ?_, ?_, ?_, ?_, ?_⟩ <;>
      exact ⟨by decide +kernel, ⟨by decide +kernel, by decide +kernel⟩⟩
  exact ⟨travel, (incoming_of_writeFrames travel).2.1⟩

end Outgoing

end LanguageClient

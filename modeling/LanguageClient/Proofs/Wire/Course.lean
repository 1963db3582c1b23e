import LanguageClient.Proofs.Replies.Course

/-!
# The course of a frame

What the log says of a frame while it is being sent: nothing as long as its sender waits,
then the part that is written, and in the end the whole of it.
-/

namespace LanguageClient

/-- How far a task has come with the frame of a message, and what the log says of the task
since `said`. -/
inductive FrameCourse (task : TaskId) (message : Outgoing) (said : List Segment) :
    Sending → List Segment → Prop
  | waiting {frame : Sending} :
      frame = .asking message ∨ frame = .queued message →
      FrameCourse task message said frame said
  | writing {written rest : List UInt8} :
      message.frame = written ++ rest →
      FrameCourse task message said (.writing message rest) (⟨task, message, written⟩ :: said)

namespace Segment

def whole (task : TaskId) (message : Outgoing) : Segment :=
  ⟨task, message, message.frame⟩

/-- Whether all bytes of a frame were written. -/
def isWhole (segment : Segment) : Bool := segment.written = segment.message.frame

/-- What the log says of a task that has sent messages one after the other. -/
def wholes (task : TaskId) (messages : List Outgoing) : List Segment :=
  (messages.map (whole task)).reverse

theorem wholes_concat (task : TaskId) (messages : List Outgoing) (message : Outgoing) :
    wholes task (messages ++ [message]) = whole task message :: wholes task messages := by
  simp [wholes]

end Segment

namespace FrameCourse

variable {task : TaskId} {message : Outgoing} {said segments : List Segment} {turn : Turn}
  {client client' : Client} {frame frame' : Sending}

theorem start (task : TaskId) (message : Outgoing) (said : List Segment) :
    FrameCourse task message said (.start message) said :=
  .waiting (Or.inl rfl)

/-- The frame goes on in the log as its sender does. -/
theorem step
    (course : FrameCourse task message said frame segments)
    (step : frame.step turn client = .running client' frame') :
    FrameCourse task message said frame' (Segment.record task frame.use frame'.use segments) := by
  cases course with
  | waiting waits =>
      rcases waits with rfl | rfl
      · cases step
        exact .waiting (Or.inr rfl)
      · obtain rfl := Sending.of_queued_running step
        exact .writing (List.nil_append _).symm
  | writing parts =>
      obtain ⟨more, rest', rfl, rfl⟩ := Sending.of_writing_running step
      rw [Sending.use, Sending.use, Segment.record_put, Segment.extend]
      exact .writing (by rw [parts, List.append_assoc])

/-- A send that ends without an error has the whole frame in the log. -/
theorem finished
    (course : FrameCourse task message said frame segments)
    (step : frame.step turn client = .finished client' (.ok ())) :
    segments = Segment.whole task message :: said := by
  cases course with
  | waiting waits =>
      rcases waits with rfl | rfl
      · cases step
      · cases (Sending.of_queued_finished step).2
  | writing parts =>
      rcases Sending.of_writing_finished step with ⟨rfl, _⟩ | ⟨_, _, failed⟩
      · rw [Segment.whole, parts, List.append_nil]
      · cases failed

/-- A send that fails has nothing of its frame in the log, or some bytes but not all. -/
theorem failed
    {error : ClientError} (course : FrameCourse task message said frame segments)
    (step : frame.step turn client = .finished client' (.error error)) :
    segments = said ∨ ∃ written rest, message.frame = written ++ rest ∧ rest ≠ [] ∧
      segments = ⟨task, message, written⟩ :: said := by
  cases course with
  | waiting waits => exact Or.inl rfl
  | writing parts =>
      rcases Sending.of_writing_finished step with ⟨_, same⟩ | ⟨unfinished, _, _⟩
      · cases same
      · exact Or.inr ⟨_, _, parts, unfinished, rfl⟩

end FrameCourse

/-- No write fails: nobody is in the middle of a frame when the reader has gone. -/
def WriterUse.Flows (use : WriterUse) (client : Client) : Prop :=
  ∀ message rest, use = .writing message rest → rest ≠ [] → client.pipe.isBroken = false

/-- A send on an open stream ends without an error if no write fails. -/
theorem Sending.eq_ok_of_finished
    {turn : Turn} {client client' : Client} {frame : Sending} {result : Except ClientError Unit}
    (isOpen : client.isInputOpen = true) (flows : frame.use.Flows client)
    (step : frame.step turn client = .finished client' result) : result = .ok () := by
  cases frame with
  | asking message => cases step
  | queued message => cases isOpen.symm.trans (Sending.of_queued_finished step).1
  | writing message rest =>
      rcases Sending.of_writing_finished step with ⟨_, same⟩ | ⟨unfinished, broken, _⟩
      · exact same
      · cases (flows message rest rfl unfinished).symm.trans broken

end LanguageClient

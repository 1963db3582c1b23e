import LanguageClient.Operation.Basic
import LanguageClient.Proofs.Client.Lock
import LanguageClient.Proofs.Operation.Step

/-!
# Moves on the stream to the server

Of all that an operation does, only a few moves concern the stream to the server:
it queues for the writer, begins a frame, puts bytes into the pipe, and gives the
writer back, in some cases after closing the stream.  Every operation is seen
through the part it takes in these moves.
-/

namespace LanguageClient

/-- The side of a client that frames go out by. -/
structure Outlet where
  writer : Lock
  isInputOpen : Bool
  pipe : Pipe

/-- The side of a client that frames go out by. -/
def Client.outlet (client : Client) : Outlet :=
  ⟨client.writer, client.isInputOpen, client.pipe⟩

inductive WriterUse where
  | apart
  | waiting (message : Outgoing)
  | writing (message : Outgoing) (rest : List UInt8)
  /-- It waits for the writer to close the stream. -/
  | closing

/-- What a task does to the stream in one step. -/
inductive WriterMove (task : TaskId) (outlet : Outlet) : WriterUse → Outlet → WriterUse → Prop
  | rest (use : WriterUse) : WriterMove task outlet use outlet use
  | ask (message : Outgoing) :
      WriterMove task outlet .apart
        { outlet with writer := outlet.writer.ask task .exclusive } (.waiting message)
  | askToClose :
      WriterMove task outlet .apart
        { outlet with writer := outlet.writer.ask task .exclusive } .closing
  | begin (message : Outgoing) :
      outlet.writer.isHeldBy task = true →
      outlet.isInputOpen = true →
      WriterMove task outlet (.waiting message) outlet (.writing message message.frame)
  | put (message : Outgoing) (bytes rest : List UInt8) :
      outlet.pipe.isBroken = false →
      bytes ≠ [] →
      bytes.length ≤ outlet.pipe.room →
      WriterMove task outlet (.writing message (bytes ++ rest))
        { outlet with pipe := outlet.pipe.put bytes } (.writing message rest)
  | leave (use : WriterUse) :
      WriterMove task outlet use { outlet with writer := outlet.writer.release task } .apart
  | shut :
      outlet.writer.isHeldBy task = true →
      outlet.isInputOpen = true →
      WriterMove task outlet .closing
        ⟨outlet.writer.release task, false, outlet.pipe.close⟩ .apart

/-! ## What an operation has to do with the writer -/

def Sending.use : Sending → WriterUse
  | .asking _ => .apart
  | .queued message => .waiting message
  | .writing message rest => .writing message rest

def Calling.use : Calling → WriterUse
  | .sending _ _ frame => frame.use
  | .starting _ | .waiting _ _ => .apart

def Opening.use : Opening → WriterUse
  | .sending _ frame => frame.use
  | .starting _ | .locking _ _ | .reading _ _ => .apart

def Changing.use : Changing → WriterUse
  | .sending _ _ frame => frame.use
  | .starting _ | .locking _ _ | .reading _ _ _ => .apart

def ClosingDocument.use : ClosingDocument → WriterUse
  | .sending _ _ frame => frame.use
  | .starting _ _ | .locking _ _ => .apart

def ClosingAll.use : ClosingAll → WriterUse
  | .closing document _ _ => document.use
  | .starting | .listing | .next _ _ => .apart

def Preloading.use : Preloading → WriterUse
  | .opening document _ => document.use
  | .starting _ _ | .finding _ | .next _ => .apart

def Initializing.use : Initializing → WriterUse
  | .calling _ call => call.stage.use
  | .announcing _ _ frame => frame.use
  | .preloading _ files => files.use
  | .starting _ _ | .preparing _ _ | .registering _ _ _ _ | .settling _ _ | .failing _ => .apart

def ClosingInput.use : ClosingInput → WriterUse
  | .asking => .apart
  | .queued => .closing

def Closing.use : Closing → WriterUse
  | .closingFiles files => files.stage.use
  | .shuttingDown call => call.stage.use
  | .exiting notice => notice.stage.use
  | .closingInput input => input.stage.use
  | .starting | .reaping | .awaiting _ | .settling _ => .apart

def Answering.use : Answering → WriterUse
  | .sending frame => frame.use
  | .working _ _ | .resting _ _ _ => .apart

def Operation.use : Operation → WriterUse
  | .openSession stage => stage.use
  | .call stage => stage.use
  | .timedCall timed | .shutdown timed => timed.stage.use
  | .notify frame => frame.use
  | .openFile stage => stage.use
  | .changeFile stage => stage.use
  | .closeDocument stage => stage.use
  | .closeAll stage => stage.use
  | .exit notice => notice.stage.use
  | .close stage => stage.use
  | .preload stage => stage.use
  | .answer stage => stage.use
  | .closeFile _ | .waitReady _ => .apart

/-! ## Steps as moves -/

/-- A step of a task is a move on the stream, after which the task has to do with the
writer what its next stage says. -/
def Step.Moves
    {σ α : Type} (task : TaskId) (client : Client) (before : WriterUse) (use : σ → WriterUse)
    (step : Step σ α) : Prop :=
  step.Holds
    (fun client' stage => WriterMove task client.outlet before client'.outlet (use stage))
    (fun client' _ => WriterMove task client.outlet before client'.outlet .apart)

namespace Step.Moves

variable {σ τ α β : Type} {task : TaskId} {client : Client} {before : WriterUse}
  {use : σ → WriterUse} {step : Step σ α}

/-- What moves as a part moves as the whole, if nothing happens to the stream between
the end of the part and what follows it. -/
theorem lift
    {use' : τ → WriterUse} {stage : σ → τ}
    {next : Client → Except ClientError α → Step τ β}
    (moves : step.Moves task client before use)
    (sameUse : ∀ inner, use' (stage inner) = use inner)
    (quiet : ∀ client result,
      (next client result).Holds
        (fun client' stage' => client'.outlet = client.outlet ∧ use' stage' = .apart)
        (fun client' _ => client'.outlet = client.outlet)) :
    (step.lift stage next).Moves task client before use' := by
  unfold Step.Moves
  rw [Step.holds_lift]
  apply moves.mono
  · intro client' inner move
    rw [sameUse]
    exact move
  · intro client' result move
    apply (quiet client' result).mono
    · rintro client'' stage' ⟨sameOutlet, isApart⟩
      rw [sameOutlet, isApart]
      exact move
    · intro client'' _ sameOutlet
      rw [sameOutlet]
      exact move

theorem map
    {use' : τ → WriterUse} {stage : σ → τ} {value : α → β}
    (moves : step.Moves task client before use)
    (sameUse : ∀ inner, use' (stage inner) = use inner) :
    (step.map stage value).Moves task client before use' :=
  moves.lift sameUse fun _ _ => rfl

/-- A part with a limit of time moves as it would without, or gives the writer back. -/
theorem timed
    {inner : Client → σ → Step σ α} {abandon : Client → σ → Client} {error : ClientError}
    {timed : Timed σ}
    (moves : ∀ stage, (inner client stage).Moves task client (use stage) use)
    (gives : ∀ stage, WriterMove task client.outlet (use stage) (abandon client stage).outlet
      .apart) :
    (Timed.step inner abandon error client timed).Moves task client (use timed.stage)
      (fun timed => use timed.stage) := by
  apply Timed.step_holds
  · rintro limit stage rfl
    exact .rest _
  · rintro deadline stage rfl
    exact moves stage
  · rintro deadline stage rfl _ _
    exact gives stage

end Step.Moves

variable (turn : Turn) (task : TaskId) (client : Client)

namespace Sending

theorem step_moves (frame : Sending) :
    (frame.step turn client).Moves turn.task client frame.use use := by
  cases frame with
  | asking message => exact .ask message
  | queued message =>
      simp only [step]
      by_cases held : client.writer.isHeldBy turn.task = true
      · by_cases isOpen : client.isInputOpen = true
        · rw [if_pos held, if_pos isOpen]
          exact .begin message held isOpen
        · rw [if_pos held, if_neg isOpen]
          exact .leave _
      · rw [if_neg held]
        trivial
  | writing message rest =>
      cases rest with
      | nil => exact .leave _
      | cons byte rest =>
          simp only [step]
          by_cases broken : client.pipe.isBroken = true
          · rw [if_pos broken]
            exact .leave _
          · rw [if_neg broken]
            let count := min (max 1 turn.portion) client.pipe.room
            by_cases full : count = 0
            · rw [if_pos full]
              trivial
            · rw [if_neg full]
              have split := List.take_append_drop count (byte :: rest)
              have moved : WriterMove turn.task client.outlet
                  (.writing message ((byte :: rest).take count ++ (byte :: rest).drop count))
                  { client.outlet with pipe := client.pipe.put ((byte :: rest).take count) }
                  (.writing message ((byte :: rest).drop count)) := by
                apply WriterMove.put
                · exact Bool.not_eq_true _ ▸ broken
                · simpa using full
                · exact (List.length_take_le _ _).trans (Nat.min_le_right _ _)
              rw [split] at moved
              exact moved

theorem abandon_move (frame : Sending) :
    WriterMove task client.outlet frame.use (frame.abandon task client).outlet .apart :=
  .leave _

end Sending

namespace Calling

theorem step_moves (call : Calling) :
    (call.step turn client).Moves turn.task client call.use use := by
  cases call with
  | starting request =>
      simp only [step]
      split
      · exact .rest _
      · split
        · exact .rest _
        · exact .rest _
  | sending request id frame =>
      apply (frame.step_moves turn client).lift
      · intro inner
        rfl
      · intro client' result
        cases result with
        | ok value => exact ⟨rfl, rfl⟩
        | error error => rfl
  | waiting request id =>
      simp only [step]
      split
      · exact .rest _
      · exact .rest _
      · exact .rest _
      · split
        · exact .rest _
        · trivial

theorem abandon_move (call : Calling) :
    WriterMove task client.outlet call.use (call.abandon task client).outlet .apart := by
  cases call with
  | sending request id frame => exact frame.abandon_move task client
  | starting request => exact .rest _
  | waiting request id => exact .rest _

end Calling

theorem TimedCall.step_moves (call : TimedCall) :
    (call.step turn client).Moves turn.task client call.stage.use fun call => call.stage.use :=
  .timed (fun stage => stage.step_moves turn client) fun stage =>
    stage.abandon_move turn.task client

namespace Opening

theorem step_moves (document : Opening) :
    (document.step turn client).Moves turn.task client document.use use := by
  cases document with
  | starting path =>
      simp only [step]
      split
      · exact .rest _
      · exact .rest _
  | locking path uri =>
      simp only [step]
      split
      · split
        · exact .rest _
        · exact .rest _
      · trivial
  | reading path uri =>
      simp only [step]
      split
      · exact .rest _
      · exact .rest _
  | sending uri frame =>
      apply (frame.step_moves turn client).lift
      · intro inner
        rfl
      · intro client' result
        cases result <;> rfl

theorem abandon_move (document : Opening) :
    WriterMove task client.outlet document.use (document.abandon task client).outlet .apart := by
  cases document with
  | sending uri frame => exact frame.abandon_move task client
  | _ => exact .rest _

end Opening

namespace Changing

theorem step_moves (document : Changing) :
    (document.step turn client).Moves turn.task client document.use use := by
  cases document with
  | starting path =>
      simp only [step]
      split
      · exact .rest _
      · exact .rest _
  | locking path uri =>
      simp only [step]
      split
      · split
        · exact .rest _
        · exact .rest _
      · trivial
  | reading path uri version =>
      simp only [step]
      split
      · exact .rest _
      · exact .rest _
  | sending uri version frame =>
      apply (frame.step_moves turn client).lift
      · intro inner
        rfl
      · intro client' result
        cases result <;> rfl

theorem abandon_move (document : Changing) :
    WriterMove task client.outlet document.use (document.abandon task client).outlet .apart := by
  cases document with
  | sending uri version frame => exact frame.abandon_move task client
  | _ => exact .rest _

end Changing

namespace ClosingDocument

theorem step_moves (document : ClosingDocument) :
    (document.step turn client).Moves turn.task client document.use use := by
  cases document with
  | starting uri drop => exact .rest _
  | locking uri drop =>
      simp only [step]
      split
      · split
        · exact .rest _
        · exact .rest _
      · trivial
  | sending uri drop frame =>
      apply (frame.step_moves turn client).lift
      · intro inner
        rfl
      · intro client' result
        cases result with
        | ok value => rfl
        | error error => cases drop <;> rfl

theorem abandon_move (document : ClosingDocument) :
    WriterMove task client.outlet document.use (document.abandon task client).outlet .apart := by
  cases document with
  | sending uri drop frame => exact frame.abandon_move task client
  | _ => exact .rest _

end ClosingDocument

namespace ClosingAll

theorem step_moves (stage : ClosingAll) :
    (stage.step turn client).Moves turn.task client stage.use use := by
  cases stage with
  | starting => exact .rest _
  | listing =>
      simp only [step]
      split
      · exact .rest _
      · trivial
  | next left closed => cases left <;> exact .rest _
  | closing document left closed =>
      apply (document.step_moves turn client).lift
      · intro inner
        rfl
      · intro client' result
        rcases result with error | sent
        · exact ⟨rfl, rfl⟩
        · cases sent <;> exact ⟨rfl, rfl⟩

theorem abandon_move (stage : ClosingAll) :
    WriterMove task client.outlet stage.use (stage.abandon task client).outlet .apart := by
  cases stage with
  | closing document left closed => exact document.abandon_move task client
  | _ => exact .rest _

end ClosingAll

namespace Preloading

theorem step_moves (files : Preloading) :
    (files.step turn client).Moves turn.task client files.use use := by
  cases files with
  | starting family workspace => cases family <;> exact .rest _
  | finding workspace => exact .rest _
  | next left => cases left <;> exact .rest _
  | opening document left =>
      apply (document.step_moves turn client).lift
      · intro inner
        rfl
      · intro client' result
        exact ⟨rfl, rfl⟩

theorem abandon_move (files : Preloading) :
    WriterMove task client.outlet files.use (files.abandon task client).outlet .apart := by
  cases files with
  | opening document left => exact document.abandon_move task client
  | _ => exact .rest _

end Preloading

namespace Initializing

private theorem prepare_moves
    (workspace : Path) (custom : Option Json.Members) :
    (prepare client workspace custom).Moves task client .apart use := by
  unfold prepare
  split
  · exact .rest _
  · exact .rest _

private theorem register_moves
    (workspace : Path) (rootUri : String) (options : Option Json) (registered : Nat) :
    (register client workspace rootUri options registered).Moves task client .apart use := by
  unfold register
  split
  · exact .rest _
  · exact .rest _

private theorem announce_quiet
    (workspace : Path) (answer : Except ClientError Json) :
    (announce client workspace answer).Holds
      (fun client' stage => client'.outlet = client.outlet ∧ use stage = .apart)
      (fun client' _ => client'.outlet = client.outlet) := by
  unfold announce
  split
  · exact ⟨rfl, rfl⟩
  · split
    · exact ⟨rfl, rfl⟩
    · exact ⟨rfl, rfl⟩

theorem step_moves (stage : Initializing) :
    (stage.step turn client).Moves turn.task client stage.use use := by
  cases stage with
  | starting workspace custom =>
      simp only [step]
      split
      · exact .rest _
      · exact .rest _
  | preparing workspace custom => exact prepare_moves turn.task client workspace custom
  | registering workspace rootUri options registered =>
      exact register_moves turn.task client workspace rootUri options registered
  | calling workspace call =>
      apply (call.step_moves turn client).lift
      · intro inner
        rfl
      · intro client' answer
        exact announce_quiet client' workspace answer
  | announcing workspace result frame =>
      apply (frame.step_moves turn client).lift
      · intro inner
        rfl
      · intro client' sent
        cases sent <;> exact ⟨rfl, rfl⟩
  | settling workspace result =>
      simp only [step]
      split
      · exact .rest _
      · exact .rest _
  | preloading result files =>
      apply (files.step_moves turn client).lift
      · intro inner
        rfl
      · intro client' loaded
        cases loaded with
        | ok value => rfl
        | error error => exact ⟨rfl, rfl⟩
  | failing error => exact .rest _

theorem abandon_move (stage : Initializing) :
    WriterMove task client.outlet stage.use (stage.abandon task client).outlet .apart := by
  cases stage with
  | calling workspace call => exact call.stage.abandon_move task client
  | announcing workspace result frame => exact frame.abandon_move task client
  | preloading result files => exact files.abandon_move task client
  | _ => exact .rest _

end Initializing

theorem Exiting.step_moves (notice : Exiting) :
    (notice.step turn client).Moves turn.task client notice.stage.use
      fun notice => notice.stage.use :=
  .timed (fun stage => stage.step_moves turn client) fun stage =>
    stage.abandon_move turn.task client

namespace ClosingInput

theorem step_moves (input : ClosingInput) :
    (input.step turn client).Moves turn.task client input.use use := by
  cases input with
  | asking => exact .askToClose
  | queued =>
      simp only [step]
      by_cases held : client.writer.isHeldBy turn.task = true
      · rw [if_pos held]
        split
        · rename_i isOpen
          exact .shut held isOpen
        · exact .leave _
      · rw [if_neg held]
        trivial

theorem abandon_move (input : ClosingInput) :
    WriterMove task client.outlet input.use (input.abandon task client).outlet .apart :=
  .leave _

end ClosingInput

namespace Closing

theorem step_moves (stage : Closing) :
    (stage.step turn client).Moves turn.task client stage.use use := by
  cases stage with
  | starting =>
      simp only [step]
      split
      · exact .rest _
      · exact .rest _
  | closingFiles files =>
      have inside :
          (Timed.step (ClosingAll.step turn) (ClosingAll.abandon turn.task)
            (.timedOut "textDocument/didClose") client files).Moves turn.task client files.stage.use
              fun files => files.stage.use :=
        .timed (fun stage => stage.step_moves turn client) fun stage =>
          stage.abandon_move turn.task client
      apply inside.lift
      · intro inner
        rfl
      · intro client' result
        exact ⟨rfl, rfl⟩
  | shuttingDown call =>
      apply (call.step_moves turn client).lift
      · intro inner
        rfl
      · intro client' result
        exact ⟨rfl, rfl⟩
  | exiting notice =>
      apply (notice.step_moves turn client).lift
      · intro inner
        rfl
      · intro client' result
        exact ⟨rfl, rfl⟩
  | closingInput input =>
      have inside :
          (Timed.step (ClosingInput.step turn) (ClosingInput.abandon turn.task)
            (.timedOut "exit") client input).Moves turn.task client input.stage.use
              fun input => input.stage.use :=
        .timed (fun stage => stage.step_moves turn client) fun stage =>
          stage.abandon_move turn.task client
      apply inside.lift
      · intro inner
        rfl
      · intro client' result
        exact ⟨rfl, rfl⟩
  | reaping =>
      simp only [step]
      split
      · exact .rest _
      · exact .rest _
  | awaiting deadline =>
      simp only [step]
      split
      · exact .rest _
      · exact .rest _
      · split
        · exact .rest _
        · trivial
  | settling status => exact .rest _

theorem abandon_move (stage : Closing) :
    WriterMove task client.outlet stage.use (stage.abandon task client).outlet .apart := by
  cases stage with
  | closingFiles files => exact files.stage.abandon_move task client
  | shuttingDown call => exact call.stage.abandon_move task client
  | exiting notice => exact notice.stage.abandon_move task client
  | closingInput input => exact input.stage.abandon_move task client
  | _ => exact .rest _

end Closing

namespace Answering

theorem step_moves (stage : Answering) :
    (stage.step turn client).Moves turn.task client stage.use use := by
  cases stage with
  | working id work =>
      cases work with
      | answered answer => exact .rest _
      | delayed milliseconds answer => exact .rest _
      | editing progress =>
          simp only [step]
          cases progress.outcome? <;> exact .rest _
  | resting id wakeTime answer =>
      simp only [step]
      split
      · exact .rest _
      · trivial
  | sending frame => exact (frame.step_moves turn client).map fun _ => rfl

theorem abandon_move (stage : Answering) :
    WriterMove task client.outlet stage.use (stage.abandon task client).outlet .apart := by
  cases stage with
  | sending frame => exact frame.abandon_move task client
  | _ => exact .rest _

end Answering

theorem Waiting.step_moves (stage : Waiting) :
    (stage.step client).Moves task client .apart fun _ => .apart := by
  cases stage with
  | starting milliseconds => exact .rest _
  | resting wakeTime =>
      simp only [step]
      split
      · trivial
      · split
        · exact .rest _
        · exact .rest _

namespace Operation

/-- Every step of an operation is a move on the stream. -/
theorem step_moves (operation : Operation) :
    (operation.step turn client).Moves turn.task client operation.use use := by
  cases operation with
  | openSession stage => exact (stage.step_moves turn client).map fun _ => rfl
  | call stage => exact (stage.step_moves turn client).map fun _ => rfl
  | timedCall stage => exact (TimedCall.step_moves turn client stage).map fun _ => rfl
  | notify stage => exact (stage.step_moves turn client).map fun _ => rfl
  | openFile stage => exact (stage.step_moves turn client).map fun _ => rfl
  | changeFile stage => exact (stage.step_moves turn client).map fun _ => rfl
  | closeFile path =>
      simp only [step]
      split
      · exact .rest _
      · exact .rest _
  | closeDocument stage => exact (stage.step_moves turn client).map fun _ => rfl
  | closeAll stage => exact (stage.step_moves turn client).map fun _ => rfl
  | waitReady stage => exact (stage.step_moves turn.task client).map fun _ => rfl
  | shutdown stage => exact (TimedCall.step_moves turn client stage).map fun _ => rfl
  | exit stage => exact (Exiting.step_moves turn client stage).map fun _ => rfl
  | close stage => exact (stage.step_moves turn client).map fun _ => rfl
  | preload stage => exact (stage.step_moves turn client).map fun _ => rfl
  | answer stage => exact (stage.step_moves turn client).map fun _ => rfl

/-- An operation that is given up gives the writer back. -/
theorem abandon_move (operation : Operation) :
    WriterMove task client.outlet operation.use (operation.abandon task client).outlet
      .apart := by
  cases operation with
  | openSession stage => exact stage.abandon_move task client
  | call stage => exact stage.abandon_move task client
  | timedCall stage => exact stage.stage.abandon_move task client
  | notify stage => exact stage.abandon_move task client
  | openFile stage => exact stage.abandon_move task client
  | changeFile stage => exact stage.abandon_move task client
  | closeFile path => exact .rest _
  | closeDocument stage => exact stage.abandon_move task client
  | closeAll stage => exact stage.abandon_move task client
  | waitReady stage => exact .rest _
  | shutdown stage => exact stage.stage.abandon_move task client
  | exit stage => exact stage.stage.abandon_move task client
  | close stage => exact stage.abandon_move task client
  | preload stage => exact stage.abandon_move task client
  | answer stage => exact stage.abandon_move task client

/-- An operation begins apart from the writer. -/
theorem use_begin (command : Command) : (command.begin client).use = .apart := by
  cases command <;> rfl

end Operation

end LanguageClient

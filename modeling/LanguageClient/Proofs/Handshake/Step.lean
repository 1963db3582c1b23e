import LanguageClient.Proofs.Handshake.Course

/-!
# Steps of the handshake

Each step of the task that opens a session keeps it on its course, stage by stage.
-/

namespace LanguageClient

variable {past : List Transition} {opening : SessionOpening} {turn : Turn}
  {client client' : Client}

/-! ## What was said -/

/-- Whatever the stage, what was said is what can be said. -/
theorem Handshaking.said {trace : TaskTrace} (handshaking : Handshaking past opening trace) :
    HandshakeLog past opening trace.segments := by
  cases handshaking with
  | preparing | registering | calling => exact .nothing
  | asking prepared method stage frame => exact .asking _ _ _ prepared
  | asked prepared stage => exact .asking _ _ _ prepared
  | announcing prepared opened waits => exact .asking _ _ _ prepared
  | telling prepared opened frame =>
      exact .told _ _ prepared opened
  | settling prepared opened =>
      exact .told _ _ prepared opened
  | preloading prepared opened made ordinary => exact .telling _ _ prepared opened ordinary
  | succeeded prepared opened made ordinary => exact .telling _ _ prepared opened ordinary
  | failing said | givenUp said | failed said => exact said

theorem HandshakeLog.prepared
    {log : List Segment} (said : HandshakeLog past opening log) {segment : Segment}
    (member : segment ∈ log) : Prepared past opening := by
  cases said with
  | nothing => cases member
  | asking _ _ _ prepared => exact prepared
  | telling _ _ prepared => exact prepared

namespace Handshaking

/-! ## The request -/

private theorem of_preparing
    {next : Initializing}
    (step : (Initializing.preparing opening.workspace opening.custom).step turn client =
      .running client' next) :
    Handshaking past opening
      ⟨some (.openSession next), Segment.record opening.task .apart next.use [], []⟩ := by
  simp only [Initializing.step, Initializing.prepare] at step
  split at step
  · cases step
    exact .failing .nothing
  · rename_i uri hasUri
    cases step
    refine .registering hasUri fun registration member => ?_
    rw [List.take_zero] at member
    cases member

/-- One more of the built-in handlers is registered, or all of them have been. -/
private theorem of_registering
    {rootUri : String} {registered : Nat} {next : Initializing}
    (hasUri : Client.uriOf opening.workspace = .ok rootUri)
    (earlier : ∀ registration,
      registration ∈ (HandlerRegistry.builtins opening.settings).take registered →
        HasRegistered past opening.task registration)
    (step : (Initializing.registering opening.workspace rootUri
      (Initializing.givenOptions opening.custom) registered).step turn client =
        .running client' next)
    (registers : ∀ registration,
      (HandlerRegistry.builtins opening.settings)[registered]? = some registration →
        HasRegistered past opening.task registration) :
    Handshaking past opening
      ⟨some (.openSession next), Segment.record opening.task .apart next.use [], []⟩ := by
  simp only [Initializing.step, Initializing.register] at step
  split at step
  · rename_i registration isNext
    cases step
    refine .registering hasUri fun other member => ?_
    rw [List.take_add_one, List.mem_append] at member
    rcases member with isEarlier | isLast
    · exact earlier other isEarlier
    · exact registers other (Option.mem_toList.mp isLast)
  · rename_i isLast
    cases step
    have all : (HandlerRegistry.builtins opening.settings).take registered =
        HandlerRegistry.builtins opening.settings :=
      List.take_of_length_le (List.getElem?_eq_none_iff.mp isLast)
    exact .calling ⟨⟨rootUri, hasUri⟩, all ▸ earlier⟩ rfl trivial (by rintro _ _ ⟨⟩)
      (by rintro _ _ ⟨⟩)

private theorem fails
    {log : List Segment} (said : HandshakeLog past opening log) (use : WriterUse)
    (error : ClientError) :
    Handshaking past opening
      ⟨some (.openSession (.failing error)),
        Segment.record opening.task use (Initializing.failing error).use log, []⟩ := by
  have same : Segment.record opening.task use (Initializing.failing error).use log = log :=
    Segment.record_apart opening.task use log
  exact same.symm ▸ .failing said

/-- The request goes on to the frame, or it has begun it. -/
private theorem of_calling_inside
    {stage : Calling} {timed' : TimedCall} (prepared : Prepared past opening)
    (method : stage.request.method = "initialize") (isProper : stage.IsProper)
    (notWriting : ∀ message rest, stage.use ≠ .writing message rest)
    (step : stage.step turn client = .running client' timed'.stage) :
    Handshaking past opening
      ⟨some (.openSession (.calling opening.workspace timed')),
        Segment.record opening.task stage.use timed'.stage.use [], []⟩ := by
  rcases Calling.of_step_running step with
    ⟨request, id, rfl, next⟩ | ⟨request, id, frame, frame', rfl, sends, next⟩ |
      ⟨request, id, frame, rfl, sent, next⟩
  · rw [next]
    exact .calling prepared (next ▸ method) (next ▸ rfl) (next ▸ nofun) (next ▸ nofun)
  · cases frame with
    | asking message =>
        cases sends
        rw [next]
        exact .calling prepared (next ▸ method) (next ▸ isProper) (next ▸ nofun) (next ▸ nofun)
    | queued message =>
        obtain rfl := Sending.of_queued_running sends
        obtain rfl : message = .request id request.method request.params := isProper
        change request.method = "initialize" at method
        rw [method] at next
        rw [next]
        exact .asking prepared method next (List.nil_append _).symm
    | writing message rest => exact absurd rfl (notWriting message rest)
  · cases frame with
    | asking message => cases sent
    | queued message => cases (Sending.of_queued_finished sent).2
    | writing message rest => exact absurd rfl (notWriting message rest)

private theorem of_calling
    {timed : TimedCall} {next : Initializing} (prepared : Prepared past opening)
    (method : timed.stage.request.method = "initialize") (isProper : timed.stage.IsProper)
    (notWaiting : ∀ request id, timed.stage ≠ .waiting request id)
    (notWriting : ∀ message rest, timed.stage.use ≠ .writing message rest)
    (step : (Initializing.calling opening.workspace timed).step turn client =
      .running client' next) :
    Handshaking past opening
      ⟨some (.openSession next),
        Segment.record opening.task timed.stage.use next.use [], []⟩ := by
  rcases Initializing.of_calling_running step with
    ⟨timed', calls, rfl⟩ | ⟨error, rfl⟩ | ⟨request, id, _, _, stage, _⟩
  · rcases Timed.of_step_running calls with ⟨limit, same⟩ | ⟨deadline, _, _, inside⟩
    · have stage : timed'.stage = timed.stage := same ▸ rfl
      rw [Initializing.use, stage, Segment.record_rest]
      rw [← stage] at method isProper notWaiting notWriting
      exact .calling prepared method isProper notWaiting notWriting
    · exact of_calling_inside prepared method isProper notWriting inside
  · exact fails .nothing _ error
  · exact absurd stage (notWaiting request id)

private theorem of_asking
    {timed : TimedCall} {next : Initializing} {id : Nat} {request : CallRequest}
    {written rest : List UInt8} (prepared : Prepared past opening)
    (method : request.method = "initialize")
    (stage : timed.stage =
      .sending request id (.writing (.request id "initialize" request.params) rest))
    (frame : (Outgoing.request id "initialize" request.params).frame = written ++ rest)
    (step : (Initializing.calling opening.workspace timed).step turn client =
      .running client' next) :
    Handshaking past opening
      ⟨some (.openSession next),
        Segment.record opening.task (.writing (.request id "initialize" request.params) rest)
          next.use [askingFrame opening id request.params written], []⟩ := by
  rcases Initializing.of_calling_running step with
    ⟨timed', calls, rfl⟩ | ⟨error, rfl⟩ | ⟨_, _, _, _, waits, _⟩
  · rcases Timed.of_step_running calls with ⟨limit, same⟩ | ⟨deadline, _, _, inside⟩
    · have stage' : timed'.stage = timed.stage := same ▸ rfl
      rw [stage] at stage'
      rw [Initializing.use, stage', Calling.use, Sending.use, Segment.record_rest]
      exact .asking prepared method stage' frame
    · rw [stage] at inside
      rcases Calling.of_step_running inside with
        ⟨_, _, isStarting, _⟩ | ⟨_, _, _, frame', same, sends, next⟩ | ⟨_, _, _, same, sent, next⟩
      · cases isStarting
      · cases same
        obtain ⟨more, rest', rfl, rfl⟩ := Sending.of_writing_running sends
        rw [Initializing.use, next, Calling.use, Sending.use, Segment.record_put]
        exact .asking prepared method next (frame.trans (List.append_assoc written more rest').symm)
      · cases same
        rcases Sending.of_writing_finished sent with ⟨rfl, _⟩ | ⟨_, _, isError⟩
        · rw [List.append_nil] at frame
          rw [Initializing.use, next, Calling.use, Segment.record_apart, ← frame]
          exact .asked prepared next
        · cases isError
  · exact fails (.asking _ _ _ prepared) _ error
  · cases stage.symm.trans waits

private theorem of_asked
    {timed : TimedCall} {next : Initializing} {id : Nat} {request : CallRequest}
    (prepared : Prepared past opening) (stage : timed.stage = .waiting request id)
    (answers : ∀ value, client.calls.mailbox? id = some (.full (.ok value)) →
      AnsweredIn past opening.task id (.ok value))
    (step : (Initializing.calling opening.workspace timed).step turn client =
      .running client' next) :
    Handshaking past opening
      ⟨some (.openSession next),
        Segment.record opening.task .apart next.use [askedFrame opening id request.params],
          []⟩ := by
  rcases Initializing.of_calling_running step with
    ⟨timed', calls, rfl⟩ | ⟨error, rfl⟩ | ⟨request', id', value, result, waits, full, decodes, rfl⟩
  · rcases Timed.of_step_running calls with ⟨limit, same⟩ | ⟨deadline, _, _, inside⟩
    · have stage' : timed'.stage = timed.stage := same ▸ rfl
      rw [stage] at stage'
      rw [Initializing.use, stage', Calling.use, Segment.record_apart]
      exact .asked prepared stage'
    · rw [stage] at inside
      rcases Calling.of_step_running inside with
        ⟨_, _, same, _⟩ | ⟨_, _, _, _, same, _⟩ | ⟨_, _, _, same, _⟩ <;> cases same
  · exact fails (.asking _ _ _ prepared) _ error
  · cases stage.symm.trans waits
    exact .announcing prepared ⟨value, answers value full, decodes⟩ (Or.inl rfl)

/-! ## The message that the session is open -/

private theorem of_announcing
    {id : Nat} {params : Option Json} {result : InitializeResult} {frame : Sending}
    {next : Initializing} (prepared : Prepared past opening)
    (opened : OpenedBy past opening.task id result)
    (waits : frame = .asking .initialized ∨ frame = .queued .initialized)
    (step : (Initializing.announcing opening.workspace result frame).step turn client =
      .running client' next) :
    Handshaking past opening
      ⟨some (.openSession next),
        Segment.record opening.task frame.use next.use [askedFrame opening id params], []⟩ := by
  rcases Step.lift_eq_running_iff.mp step with ⟨frame', sends, rfl⟩ | ⟨_, sent, ended, goesOn⟩
  · rcases waits with rfl | rfl
    · cases sends
      exact .announcing prepared opened (Or.inr rfl)
    · obtain rfl := Sending.of_queued_running sends
      exact .telling prepared opened (List.nil_append _).symm
  · cases sent with
    | error error =>
        cases goesOn
        exact fails (.asking _ _ _ prepared) _ error
    | ok =>
        rcases waits with rfl | rfl
        · cases ended
        · cases (Sending.of_queued_finished ended).2

private theorem of_telling
    {id : Nat} {params : Option Json} {result : InitializeResult} {written rest : List UInt8}
    {next : Initializing} (prepared : Prepared past opening)
    (opened : OpenedBy past opening.task id result)
    (frame : Outgoing.initialized.frame = written ++ rest)
    (step : (Initializing.announcing opening.workspace result
      (.writing .initialized rest)).step turn client = .running client' next) :
    Handshaking past opening
      ⟨some (.openSession next),
        Segment.record opening.task (.writing .initialized rest) next.use
          [tellingFrame opening written, askedFrame opening id params], []⟩ := by
  rcases Step.lift_eq_running_iff.mp step with ⟨frame', sends, rfl⟩ | ⟨_, sent, ended, goesOn⟩
  · obtain ⟨more, rest', rfl, rfl⟩ := Sending.of_writing_running sends
    rw [Initializing.use, Sending.use, Segment.record_put]
    exact .telling prepared opened (frame.trans (List.append_assoc written more rest').symm)
  · cases sent with
    | error error =>
        cases goesOn
        exact fails (.told _ _ prepared opened) _ error
    | ok =>
        cases goesOn
        rcases Sending.of_writing_finished ended with ⟨rfl, _⟩ | ⟨_, _, isError⟩
        · rw [List.append_nil] at frame
          rw [← frame]
          exact .settling prepared opened
        · cases isError

/-! ## The open session -/

private theorem of_settling
    {id : Nat} {params : Option Json} {result : InitializeResult} {next : Initializing}
    (prepared : Prepared past opening) (opened : OpenedBy past opening.task id result)
    (ready : client.state = .initializing → client'.state = .ready →
      MadeReady past opening.task)
    (step : (Initializing.settling opening.workspace result).step turn client =
      .running client' next) :
    Handshaking past opening
      ⟨some (.openSession next),
        Segment.record opening.task .apart next.use
          [tellingFrame opening Outgoing.initialized.frame, askedFrame opening id params], []⟩ := by
  simp only [Initializing.step] at step
  split at step
  · rename_i isInitializing
    cases step
    have made := ready isInitializing rfl
    exact @preloading past opening id params result _ [] prepared opened made (by simp)
  · cases step
    exact fails (.told _ _ prepared opened) _ _

/-- What the loading of files sends is a notice of a document. -/
private theorem not_isHandshake_of_preloading
    {files : Preloading} {message : Outgoing} (isProper : files.IsProper)
    (sends : files.use.message? = some message) : ¬ message.IsHandshake := by
  cases files with
  | opening document left =>
      cases document with
      | sending uri frame =>
          obtain ⟨language, text, own⟩ := isProper
          have sent : frame.message = message := Sending.message_of_use sends
          rw [← sent, own]
          exact DocumentNotice.not_isHandshake _
      | starting | locking | reading => cases sends
  | starting | finding | next => cases sends

/-- The notices of files come behind what was said before. -/
private theorem exists_notices
    {use use' : WriterUse} {notices said : List Segment}
    (ordinary : ∀ segment, segment ∈ notices → ¬ segment.message.IsHandshake)
    (isHandshake : ∀ segment, segment ∈ said → segment.message.IsHandshake)
    (before : ∀ message, use.message? = some message → ¬ message.IsHandshake)
    (afterwards : ∀ message, use'.message? = some message → ¬ message.IsHandshake)
    (writing : ∀ message rest, use = .writing message rest →
      ∃ written earlier, notices ++ said = ⟨opening.task, message, written⟩ :: earlier) :
    ∃ notices', Segment.record opening.task use use' (notices ++ said) = notices' ++ said ∧
      ∀ segment, segment ∈ notices' → ¬ segment.message.IsHandshake := by
  cases use with
  | apart => exact ⟨notices, rfl, ordinary⟩
  | closing => exact ⟨notices, rfl, ordinary⟩
  | waiting message =>
      cases use' with
      | writing message' rest =>
          refine ⟨⟨opening.task, message', []⟩ :: notices, rfl, fun segment member => ?_⟩
          rcases List.mem_cons.mp member with rfl | earlier
          · exact afterwards message' rfl
          · exact ordinary segment earlier
      | apart | waiting | closing => exact ⟨notices, rfl, ordinary⟩
  | writing message rest =>
      cases use' with
      | writing message' rest' =>
          -- The frame that grows is the latest, and it is none of the handshake.
          obtain ⟨written, earlier, shape⟩ := writing message rest rfl
          cases notices with
          | nil =>
              have first := isHandshake _ (by rw [List.nil_append] at shape; rw [shape]; exact
                List.mem_cons_self)
              exact absurd first (before message rfl)
          | cons latest notices =>
              refine ⟨_ :: notices, rfl, fun segment member => ?_⟩
              rcases List.mem_cons.mp member with rfl | older
              · exact ordinary latest List.mem_cons_self
              · exact ordinary segment (List.mem_cons_of_mem _ older)
      | apart | waiting | closing => exact ⟨notices, rfl, ordinary⟩

private theorem of_preloading
    {id : Nat} {params : Option Json} {result : InitializeResult} {files : Preloading}
    {notices : List Segment} {next : Initializing} (prepared : Prepared past opening)
    (opened : OpenedBy past opening.task id result) (made : MadeReady past opening.task)
    (ordinary : ∀ segment, segment ∈ notices → ¬ segment.message.IsHandshake)
    (isProper : files.IsProper)
    (writing : ∀ message rest, files.use = .writing message rest →
      ∃ written earlier, notices ++ [tellingFrame opening Outgoing.initialized.frame,
        askedFrame opening id params] = ⟨opening.task, message, written⟩ :: earlier)
    (step : (Initializing.preloading result files).step turn client = .running client' next) :
    Handshaking past opening
      ⟨some (.openSession next),
        Segment.record opening.task files.use next.use
          (notices ++ [tellingFrame opening Outgoing.initialized.frame,
            askedFrame opening id params]), []⟩ := by
  rcases Step.lift_eq_running_iff.mp step with ⟨files', loads, rfl⟩ | ⟨_, loaded, _, goesOn⟩
  · have isProper' : files'.IsProper := (Preloading.step_keeps isProper).of_running loads
    have said : ∀ segment, segment ∈ [tellingFrame opening Outgoing.initialized.frame,
        askedFrame opening id params] → segment.message.IsHandshake := by
      intro segment member
      rcases List.mem_cons.mp member with rfl | last
      · exact ⟨_, rfl, Or.inr rfl⟩
      · obtain rfl := List.mem_singleton.mp last
        exact ⟨_, rfl, Or.inl rfl⟩
    obtain ⟨notices', shape, ordinary'⟩ := exists_notices ordinary said
      (fun message sends => not_isHandshake_of_preloading isProper sends)
      (fun message sends => not_isHandshake_of_preloading isProper' sends) writing
    rw [Initializing.use, shape]
    exact .preloading prepared opened made ordinary'
  · cases loaded with
    | error error =>
        cases goesOn
        exact fails (.telling _ _ prepared opened ordinary) _ error
    | ok => cases goesOn

/-! ## All stages -/

/-- What a step of the handshake relies on: a built-in handler that is next is registered by
this step, an answer that is found was read, the client becomes ready by this step, and the
frame that is being written is the latest. -/
structure Support
    (past : List Transition) (opening : SessionOpening) (client client' : Client)
    (operation : Operation) (segments : List Segment) : Prop where
  registers : ∀ registration, operation.registration? = some registration →
    HasRegistered past opening.task registration
  answers : ∀ request id value, operation.calling? = some (.waiting request id) →
    client.calls.mailbox? id = some (.full (.ok value)) →
      AnsweredIn past opening.task id (.ok value)
  ready : client.state = .initializing → client'.state = .ready → MadeReady past opening.task
  isProper : operation.IsProper fun _ => True
  writing : ∀ message rest, operation.use = .writing message rest →
    ∃ written earlier, segments = ⟨opening.task, message, written⟩ :: earlier

/-- A step keeps the handshake on its course. -/
theorem stepped
    {operation next : Operation} {segments : List Segment} {results : List OperationResult}
    (handshaking : Handshaking past opening ⟨some operation, segments, results⟩)
    (support : Support past opening client client' operation segments)
    (step : operation.step turn client = .running client' next) :
    Handshaking past opening
      ⟨some next, Segment.record opening.task operation.use next.use segments, results⟩ := by
  obtain ⟨stage, rfl⟩ : ∃ stage, operation = .openSession stage := by
    cases handshaking <;> exact ⟨_, rfl⟩
  obtain ⟨next, inside, rfl⟩ := Step.map_eq_running_iff.mp step
  cases handshaking with
  | preparing => exact of_preparing inside
  | registering hasUri earlier =>
      exact of_registering hasUri earlier inside support.registers
  | calling prepared method isProper notWaiting notWriting =>
      exact of_calling prepared method isProper notWaiting notWriting inside
  | asking prepared method stage frame =>
      have use : (Operation.openSession (.calling opening.workspace _)).use = _ :=
        congrArg Calling.use stage
      rw [use]
      exact of_asking prepared method stage frame inside
  | asked prepared stage =>
      have use : (Operation.openSession (.calling opening.workspace _)).use = _ :=
        congrArg Calling.use stage
      rw [use]
      exact of_asked prepared stage (fun value full =>
        support.answers _ _ value (congrArg some stage) full) inside
  | announcing prepared opened waits => exact of_announcing prepared opened waits inside
  | telling prepared opened frame => exact of_telling prepared opened frame inside
  | settling prepared opened => exact of_settling prepared opened support.ready inside
  | preloading prepared opened made ordinary =>
      exact of_preloading prepared opened made ordinary support.isProper support.writing inside
  | failing said => cases inside

/-- The last step of the handshake comes to its result. -/
theorem ended
    {operation : Operation} {segments : List Segment} {result : OperationResult}
    {results : List OperationResult}
    (handshaking : Handshaking past opening ⟨some operation, segments, results⟩)
    (step : operation.step turn client = .finished client' result) :
    Handshaking past opening ⟨none, segments, result :: results⟩ ∧
      ((∃ error, result = .error error) →
        ∃ reason, client'.state = client.state.failHandshake reason) := by
  obtain ⟨stage, rfl⟩ : ∃ stage, operation = .openSession stage := by
    cases handshaking <;> exact ⟨_, rfl⟩
  obtain ⟨result, inside, rfl⟩ := Step.map_eq_finished_iff.mp step
  rcases Initializing.of_step_finished inside with
    ⟨_, _, rfl, _⟩ | ⟨opened, files, rfl, rfl⟩ | ⟨error, rfl, rfl, rfl⟩
  · cases handshaking
  · cases handshaking with
    | preloading prepared openedBy made ordinary =>
        refine ⟨.succeeded prepared openedBy made ordinary, ?_⟩
        rintro ⟨error, isError⟩
        cases isError
  · cases handshaking with
    | failing said => exact ⟨.failed said, fun _ => ⟨_, rfl⟩⟩

end Handshaking

end LanguageClient

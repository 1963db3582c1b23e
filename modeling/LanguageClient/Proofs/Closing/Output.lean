import LanguageClient.Proofs.Lifecycle.Gate
import LanguageClient.Proofs.Wire.Delivery

/-!
# Closing the output

Only the closing of a client closes the stream to the server, and only when it gets the
writer before its time is over.
-/

namespace LanguageClient

/-! ## Who closes the stream -/

section Use

theorem Sending.use_ne_closing (frame : Sending) : frame.use ≠ .closing := by
  cases frame <;> simp [use]

theorem Calling.use_ne_closing (call : Calling) : call.use ≠ .closing := by
  cases call with
  | sending request id frame => exact frame.use_ne_closing
  | starting | waiting => simp [use]

theorem Opening.use_ne_closing (document : Opening) : document.use ≠ .closing := by
  cases document with
  | sending uri frame => exact frame.use_ne_closing
  | starting | locking | reading => simp [use]

theorem Changing.use_ne_closing (document : Changing) : document.use ≠ .closing := by
  cases document with
  | sending uri version frame => exact frame.use_ne_closing
  | starting | locking | reading => simp [use]

theorem ClosingDocument.use_ne_closing (document : ClosingDocument) :
    document.use ≠ .closing := by
  cases document with
  | sending uri drop frame => exact frame.use_ne_closing
  | starting | locking => simp [use]

theorem ClosingAll.use_ne_closing (stage : ClosingAll) : stage.use ≠ .closing := by
  cases stage with
  | closing document left closed => exact document.use_ne_closing
  | starting | listing | next => simp [use]

theorem Preloading.use_ne_closing (files : Preloading) : files.use ≠ .closing := by
  cases files with
  | opening document left => exact document.use_ne_closing
  | starting | finding | next => simp [use]

theorem Initializing.use_ne_closing (stage : Initializing) : stage.use ≠ .closing := by
  cases stage with
  | calling workspace call => exact call.stage.use_ne_closing
  | announcing workspace result frame => exact frame.use_ne_closing
  | preloading result files => exact files.use_ne_closing
  | starting | preparing | registering | settling | failing => simp [use]

theorem Answering.use_ne_closing (stage : Answering) : stage.use ≠ .closing := by
  cases stage with
  | sending frame => exact frame.use_ne_closing
  | working | resting => simp [use]

/-- Who waits for the writer to close the stream closes the client. -/
theorem Operation.eq_closingInput_of_use
    {operation : Operation} (closes : operation.use = .closing) :
    ∃ input, operation = .close (.closingInput input) ∧ input.stage = .queued := by
  cases operation with
  | close stage =>
      cases stage with
      | closingInput input =>
          refine ⟨input, rfl, ?_⟩
          change input.stage.use = .closing at closes
          cases stage : input.stage with
          | asking =>
              rw [stage] at closes
              cases closes
          | queued => rfl
      | closingFiles files => exact absurd closes files.stage.use_ne_closing
      | shuttingDown call => exact absurd closes call.stage.use_ne_closing
      | exiting notice => exact absurd closes notice.stage.use_ne_closing
      | starting | reaping | awaiting | settling => cases closes
  | openSession stage => exact absurd closes stage.use_ne_closing
  | call stage => exact absurd closes stage.use_ne_closing
  | timedCall timed | shutdown timed => exact absurd closes timed.stage.use_ne_closing
  | notify frame => exact absurd closes frame.use_ne_closing
  | openFile stage => exact absurd closes stage.use_ne_closing
  | changeFile stage => exact absurd closes stage.use_ne_closing
  | closeDocument stage => exact absurd closes stage.use_ne_closing
  | closeAll stage => exact absurd closes stage.use_ne_closing
  | exit notice => exact absurd closes notice.stage.use_ne_closing
  | preload stage => exact absurd closes stage.use_ne_closing
  | answer stage => exact absurd closes stage.use_ne_closing
  | closeFile | waitReady => cases closes

end Use

/-- A move that closes the stream is one of a task that waits for the writer to do so. -/
private theorem WriterMove.use_of_shut
    {task : TaskId} {outlet outlet' : Outlet} {use use' : WriterUse}
    (move : WriterMove task outlet use outlet' use') (isOpen : outlet.isInputOpen = true)
    (closed : outlet'.isInputOpen = false) : use = .closing := by
  cases move with
  | shut => rfl
  | _ => cases isOpen.symm.trans closed

/-! ## The step that closes the stream -/

/-- The closing of a client at its wait for the writer to close the stream. -/
def Operation.shutting (deadline : Nat) : Operation :=
  .close (.closingInput (.underway deadline .queued))

structure Transition.Shuts (transition : Transition) (task : TaskId) : Prop where
  advances : ∃ portion, transition.action = .advance task portion
  waits : ∃ deadline, transition.before.task? task = some (.shutting deadline)
  holds : transition.before.client.writer.isHeldBy task = true
  leaves : transition.after.task? task = some (.close .reaping)

/-- The time of a task is over before it has got the writer to close the stream. -/
structure Transition.LeavesOpen (transition : Transition) (task : TaskId) : Prop where
  advances : ∃ portion, transition.action = .advance task portion
  expires : ∃ deadline, transition.before.task? task = some (.shutting deadline) ∧
    deadline ≤ transition.before.client.now
  misses : transition.before.client.writer.isHeldBy task = false
  leaves : transition.after.task? task = some (.close .reaping)

/-- What the last wait for the writer comes to. -/
private theorem of_shutting
    {turn : Turn} {client client' : Client} {input : Timed ClosingInput} {next : Closing}
    (step : (Closing.closingInput input).step turn client = .running client' next) :
    (client'.isInputOpen = client.isInputOpen ∧ ∃ input', next = .closingInput input') ∨
      next = .reaping ∧ ∃ deadline, input = .underway deadline .queued ∧
        (client.writer.isHeldBy turn.task = true ∧ client'.isInputOpen = false ∨
          client.writer.isHeldBy turn.task = false ∧ deadline ≤ client.now ∧
            client'.isInputOpen = client.isInputOpen) := by
  rcases Step.lift_eq_running_iff.mp step with ⟨input', inside, rfl⟩ | ⟨_, result, ended, same⟩
  · left
    refine ⟨?_, input', rfl⟩
    rcases Timed.of_step_running inside with ⟨limit, isWaiting⟩ | ⟨deadline, _, _, stepped⟩
    · subst isWaiting
      obtain ⟨rfl, _⟩ := Step.running.inj inside
      rfl
    · cases stage : input.stage with
      | asking =>
          rw [stage] at stepped
          obtain ⟨rfl, _⟩ := Step.running.inj stepped
          rfl
      | queued =>
          rw [stage] at stepped
          simp only [ClosingInput.step] at stepped
          split at stepped
          · split at stepped <;> cases stepped
          · cases stepped
  · cases same
    refine Or.inr ⟨rfl, ?_⟩
    cases input with
    | waiting limit stage => cases ended
    | underway deadline stage =>
        cases stage with
        | asking => cases ended
        | queued =>
            refine ⟨deadline, rfl, ?_⟩
            simp only [Timed.step, ClosingInput.step] at ended
            cases held : client.writer.isHeldBy turn.task with
            | true =>
                left
                refine ⟨rfl, ?_⟩
                cases isOpen : client.isInputOpen with
                | true =>
                    simp only [held, Client.releaseWriter, isOpen, if_true] at ended
                    cases ended
                    rfl
                | false =>
                    simp only [held, Client.releaseWriter, isOpen, if_true, Bool.false_eq_true,
                      if_false] at ended
                    cases ended
                    rfl
            | false =>
                right
                simp only [held, Bool.false_eq_true, if_false] at ended
                split at ended
                · rename_i due
                  cases ended
                  exact ⟨rfl, due, rfl⟩
                · cases ended

/-- What follows the step that closes the stream follows the wait for the writer. -/
private theorem Closing.eq_closingInput_of_phase
    {turn : Turn} {client client' : Client} {stage next : Closing}
    (step : stage.step turn client = .running client' next) (late : 11 ≤ next.phase)
    (early : ¬ 11 ≤ stage.phase) : ∃ input, stage = .closingInput input := by
  cases stage with
  | closingInput input => exact ⟨input, rfl⟩
  | starting =>
      simp only [Closing.step] at step
      split at step
      · cases step
      · cases step
        exact absurd late (by simp [phase])
  | closingFiles files =>
      rcases Step.lift_eq_running_iff.mp step with ⟨_, _, rfl⟩ | ⟨_, _, _, same⟩
      · exact absurd late (by simp [phase])
      · cases same
        exact absurd late (by simp [phase, shutdownCall, TimedCall.start, Timed.stage, Calling.phase])
  | shuttingDown call =>
      rcases Step.lift_eq_running_iff.mp step with ⟨inner, _, rfl⟩ | ⟨_, _, _, same⟩
      · have bound := inner.stage.phase_le
        simp only [phase] at late
        omega
      · cases same
        exact absurd late (by simp [phase, Exiting.start, Timed.stage, Sending.start, Sending.phase])
  | exiting notice =>
      rcases Step.lift_eq_running_iff.mp step with ⟨inner, _, rfl⟩ | ⟨_, _, _, same⟩
      · have bound := inner.stage.phase_le
        simp only [phase] at late
        omega
      · cases same
        exact absurd late (by simp [phase])
  | reaping | awaiting | settling => exact absurd (by simp [phase]) early

namespace Run

variable {client : Client} {session : Session} {past : List Transition}

/-- Only one that gets to close the client closes the stream. -/
theorem exists_shuts
    (run : Run (Session.connect client) past session) (wasOpen : client.isInputOpen = true)
    (closed : session.client.isInputOpen = false) :
    ∃ task, task ∈ closers past ∧ ∃ shut, shut ∈ past ∧ shut.Shuts task := by
  induction run with
  | refl => cases wasOpen.symm.trans closed
  | @step past session after action run applied inductionHypothesis =>
      cases before : session.client.isInputOpen with
      | false =>
          obtain ⟨task, isCloser, shut, member, shuts⟩ := inductionHypothesis before
          exact ⟨task, mem_closers_concat.mpr (Or.inl isCloser), shut,
            List.mem_append_left _ member, shuts⟩
      | true =>
          have effect := Session.effect_of_apply applied
          have sameInput {outlet : Outlet} (same : after.client.outlet = outlet)
              (isOpen : outlet.isInputOpen = true) : False := by
            have stillOpen : after.client.isInputOpen = true :=
              (congrArg Outlet.isInputOpen same).trans isOpen
            cases stillOpen.symm.trans closed
          cases effect.wire run.hasFreshTask with
          | quiet noTask sameUse same => exact (sameInput same before).elim
          | taken count noTask sameUse unbroken same => exact (sameInput same before).elim
          | broken noTask sameUse same => exact (sameInput same before).elim
          | @moved task isTask move others =>
              obtain ⟨operation, found, closes⟩ :=
                Session.found_of_view (move.use_of_shut before closed) (by simp)
              obtain ⟨input, rfl, queued⟩ := Operation.eq_closingInput_of_use closes
              have isCloser := run.mem_closers found (by simp)
              refine ⟨task, mem_closers_concat.mpr (Or.inl isCloser), _,
                List.mem_append_right past List.mem_cons_self, ?_⟩
              cases effect with
              | @advanced mover portion operation next client' found' step =>
                  obtain rfl : mover = task := Option.some.inj isTask
                  obtain rfl := Option.some.inj (found.symm.trans found')
                  obtain ⟨stage, inside, rfl⟩ := Step.map_eq_running_iff.mp step
                  have stillClosed : client'.isInputOpen = false := closed
                  rcases of_shutting inside with ⟨same, _⟩ | ⟨rfl, deadline, rfl, outcome⟩
                  · cases (same.trans before).symm.trans stillClosed
                  · have found'' : ({ session with client := client' } : Session).task? mover =
                        some _ := found
                    rcases outcome with ⟨held, _⟩ | ⟨_, _, same⟩
                    · refine ⟨⟨portion, rfl⟩, ⟨deadline, found⟩, held, ?_⟩
                      simp [Session.task?_setTask, found'']
                    · cases (same.trans before).symm.trans stillClosed
              | @ended mover portion operation client' result found' step =>
                  obtain rfl : mover = task := Option.some.inj isTask
                  obtain rfl := Option.some.inj (found.symm.trans found')
                  obtain ⟨_, inside, _⟩ := Step.map_eq_finished_iff.mp step
                  obtain ⟨_, _, _, behind⟩ := Step.lift_eq_finished_iff.mp inside
                  cases behind
              | @abandoned mover operation found' noAnswer =>
                  obtain rfl : mover = task := Option.some.inj isTask
                  obtain rfl := Option.some.inj (found.symm.trans found')
                  have stillOpen : session.client.isInputOpen = false := closed
                  cases before.symm.trans stillOpen
              | handled handlers noTask => cases noTask.symm.trans isTask
              | _ => cases isTask

/-- The stream is open up to the step of the closing that closes it. -/
theorem isInputOpen_of_phase
    (run : Run (Session.connect client) past session) (wasOpen : client.isInputOpen = true)
    {task : TaskId} {stage : Closing} (found : session.task? task = some (.close stage))
    (beyond : stage ≠ .starting) (early : stage.phase ≤ 10) :
    session.client.isInputOpen = true := by
  by_contra closed
  obtain ⟨other, isCloser, shut, member, shuts⟩ :=
    run.exists_shuts wasOpen (Bool.eq_false_iff.mpr closed)
  obtain rfl := run.closer_unique (run.mem_closers found beyond) isCloser
  have later := run.phase_le found member (Or.inr shuts.leaves)
  exact absurd (later.trans early) (by decide)

/-- A stream that the closing has left open stays open. -/
theorem isInputOpen_of_leavesOpen
    {earlier later : List Transition} {transition : Transition}
    (run : Run (Session.connect client) (earlier ++ transition :: later) session)
    (wasOpen : client.isInputOpen = true) {task : TaskId}
    (leavesOpen : transition.LeavesOpen task) : session.client.isInputOpen = true := by
  by_contra closed
  obtain ⟨other, isCloser, shut, member, shuts⟩ :=
    run.exists_shuts wasOpen (Bool.eq_false_iff.mpr closed)
  obtain ⟨runBefore, applied⟩ := run.before_transition
  obtain ⟨deadline, waits, _⟩ := leavesOpen.expires
  obtain ⟨deadline', waits'⟩ := shuts.waits
  have isOwn : other = task := by
    have closes := runBefore.mem_closers waits (by simp)
    apply run.closer_unique _ isCloser
    unfold closers
    rw [List.filterMap_append]
    exact List.mem_append_left _ closes
  subst isOwn
  rcases List.mem_append.mp member with inEarlier | inLater
  · have tooLate := runBefore.phase_le waits inEarlier (Or.inr shuts.leaves)
    exact absurd tooLate (by simp [Operation.shutting, Operation.phase, Closing.phase])
  · rcases List.mem_cons.mp inLater with rfl | inLater
    · cases shuts.holds.symm.trans leavesOpen.misses
    · obtain ⟨middle, rest, rfl⟩ := List.append_of_mem inLater
      have regrouped : earlier ++ transition :: (middle ++ shut :: rest) =
          (earlier ++ transition :: middle) ++ shut :: rest := by simp
      rw [regrouped] at run
      have tooLate := run.before_transition.1.phase_le waits'
        (List.mem_append_right _ List.mem_cons_self) (Or.inr leavesOpen.leaves)
      exact absurd tooLate (by simp [Operation.shutting, Operation.phase, Closing.phase])

/-- Behind the step that closes the stream it is closed, unless the time was over. -/
theorem closed_or_leavesOpen
    (run : Run (Session.connect client) past session) (fresh : client.HasFreshOutlet)
    {task : TaskId} {stage : Closing} (found : session.task? task = some (.close stage))
    (late : 11 ≤ stage.phase) :
    session.client.isInputOpen = false ∨
      ∃ transition, transition ∈ past ∧ transition.LeavesOpen task := by
  induction run generalizing stage with
  | refl => cases found
  | @step past session after action run applied inductionHypothesis =>
      have stays {stage : Closing} (found : session.task? task = some (.close stage))
          (late : 11 ≤ stage.phase) :
          after.client.isInputOpen = false ∨
            ∃ transition, transition ∈ past ++ [⟨session, action, after⟩] ∧
              transition.LeavesOpen task := by
        rcases inductionHypothesis found late with closed | ⟨transition, member, leavesOpen⟩
        · exact Or.inl (run.quiet_of_closed fresh applied closed).2.2
        · exact Or.inr ⟨transition, List.mem_append_left _ member, leavesOpen⟩
      have effect := Session.effect_of_apply applied
      generalize isOperation : Operation.close stage = operation at found
      cases effect.origin run.hasFreshTask found with
      | kept same => exact stays (isOperation ▸ same) late
      | begun command isAction new =>
          cases command with
          | close =>
              cases isOperation
              cases late
          | _ => cases isOperation
      | asked id work new => cases isOperation
      | @stepped portion before next client' isAction before' step =>
          subst isOperation
          obtain ⟨stage', rfl, inside⟩ := Operation.close_of_step_running step
          by_cases wasLate : 11 ≤ stage'.phase
          · exact stays before' wasLate
          · obtain ⟨input, rfl⟩ := Closing.eq_closingInput_of_phase inside late wasLate
            have sameClient : after.client = client' := by
              subst isAction
              cases effect with
              | advanced found' step' =>
                  obtain rfl := Option.some.inj (before'.symm.trans found')
                  exact (Step.running.inj (step'.symm.trans step)).1
              | ended found' step' =>
                  obtain rfl := Option.some.inj (before'.symm.trans found')
                  cases step.symm.trans step'
              | handled handlers noTask => cases noTask
            rcases of_shutting inside with ⟨_, input', rfl⟩ | ⟨rfl, deadline, rfl, outcome⟩
            · exact absurd late (by simp [Closing.phase])
            · rcases outcome with ⟨_, closed⟩ | ⟨misses, due, _⟩
              · exact Or.inl (sameClient ▸ closed)
              · exact Or.inr ⟨_, List.mem_append_right past List.mem_cons_self,
                  ⟨portion, isAction⟩, ⟨deadline, before', due⟩, misses, found⟩

end Run

end LanguageClient

import LanguageClient.Proofs.Operation.Message
import LanguageClient.Proofs.Session.Effect

/-!
# Phases of operations

Calls, the handshake and the closing of a client go through their stages in one order.  So
a stage that a task has left behind it does not come again, and what a task does when it
leaves a stage it does once.
-/

namespace LanguageClient

/-! ## Phases -/

/-- How far the sending of a frame is. -/
def Sending.phase : Sending → Nat
  | .asking _ => 0
  | .queued _ => 1
  | .writing _ _ => 2

def Calling.phase : Calling → Nat
  | .starting _ => 0
  | .sending _ _ frame => 1 + frame.phase
  | .waiting _ _ => 4

/-- How far the handshake is. -/
def Initializing.phase : Initializing → Nat
  | .starting _ _ => 0
  | .preparing _ _ | .registering _ _ _ _ => 1
  | .calling _ call => 2 + call.stage.phase
  | .announcing _ _ frame => 7 + frame.phase
  | .settling _ _ => 10
  | .preloading _ _ => 11
  | .failing _ => 12

def Closing.phase : Closing → Nat
  | .starting => 0
  | .closingFiles _ => 1
  | .shuttingDown call => 2 + call.stage.phase
  | .exiting notice => 7 + notice.stage.phase
  | .closingInput _ => 10
  | .reaping => 11
  | .awaiting _ => 12
  | .settling _ => 13

/-- How far an operation is, if it goes through its stages in one order. -/
def Operation.phase : Operation → Nat
  | .openSession stage => stage.phase
  | .call stage => 2 + stage.phase
  | .timedCall timed | .shutdown timed => 2 + timed.stage.phase
  | .close stage => stage.phase
  | _ => 0

/-! ## Steps -/

section Steps

variable {turn : Turn} {client : Client}

theorem Sending.phase_le (frame : Sending) : frame.phase ≤ 2 := by
  cases frame <;> simp [phase]

theorem Calling.phase_le (call : Calling) : call.phase ≤ 4 := by
  cases call with
  | sending request id frame =>
      have := frame.phase_le
      simp only [phase]
      omega
  | starting | waiting => simp [phase]

theorem Sending.step_phase (frame : Sending) :
    (frame.step turn client).Keeps fun next => frame.phase ≤ next.phase := by
  cases frame with
  | asking message => exact Nat.zero_le _
  | queued message =>
      simp only [step]
      split
      · split
        · exact Nat.le_succ 1
        · trivial
      · trivial
  | writing message rest =>
      cases rest with
      | nil => trivial
      | cons byte rest =>
          simp only [step]
          split
          · trivial
          · split
            · trivial
            · exact Nat.le_refl 2

theorem Calling.step_phase (call : Calling) :
    (call.step turn client).Keeps fun next => call.phase ≤ next.phase := by
  cases call with
  | starting request =>
      simp only [step]
      split
      · trivial
      · split
        · trivial
        · exact Nat.zero_le _
  | sending request id frame =>
      apply frame.step_phase.lift
      · exact fun next later => Nat.add_le_add_left later 1
      · intro client' result
        cases result with
        | ok => exact (Calling.sending request id frame).phase_le
        | error error => trivial
  | waiting request id =>
      simp only [step]
      split
      · trivial
      · trivial
      · trivial
      · split <;> trivial

theorem TimedCall.step_phase (call : TimedCall) :
    (call.step turn client).Keeps fun next => call.stage.phase ≤ next.stage.phase := by
  apply Timed.step_holds
  · rintro limit stage rfl
    exact Nat.le_refl _
  · rintro deadline stage rfl
    exact Calling.step_phase stage
  · intros
    trivial

theorem Exiting.step_phase (notice : Exiting) :
    (notice.step turn client).Keeps fun next => notice.stage.phase ≤ next.stage.phase := by
  apply Timed.step_holds
  · rintro limit stage rfl
    exact Nat.le_refl _
  · rintro deadline stage rfl
    exact Sending.step_phase stage
  · intros
    trivial

theorem Initializing.step_phase (stage : Initializing) :
    (stage.step turn client).Keeps fun next => stage.phase ≤ next.phase := by
  cases stage with
  | starting workspace custom =>
      simp only [step]
      split
      · exact Nat.zero_le _
      · trivial
  | preparing workspace custom =>
      simp only [step, prepare]
      split <;> simp [Step.Keeps, phase]
  | registering workspace rootUri options registered =>
      simp only [step, register]
      split
      · exact Nat.le_refl _
      · simp only [Step.Keeps, Step.holds_running, phase]
        omega
  | calling workspace call =>
      have bound := call.stage.phase_le
      apply call.step_phase.lift
      · exact fun next later => Nat.add_le_add_left later 2
      · intro client' answer
        cases answer with
        | error error => simp only [announce, Step.Keeps, Step.holds_running, phase]; omega
        | ok value =>
            simp only [announce]
            split <;> simp only [Step.Keeps, Step.holds_running, phase] <;> omega
  | announcing workspace result frame =>
      have bound := frame.phase_le
      apply frame.step_phase.lift
      · exact fun next later => Nat.add_le_add_left later 7
      · intro client' sent
        cases sent <;> simp only [Step.Keeps, Step.holds_running, phase] <;> omega
  | settling workspace result =>
      simp only [step]
      split <;> simp [Step.Keeps, phase]
  | preloading result files =>
      apply (Step.Keeps.trivial _).lift
      · exact fun _ _ => Nat.le_refl _
      · intro client' loaded
        cases loaded with
        | ok value => trivial
        | error error => simp [Step.Keeps, phase]
  | failing error => trivial

theorem Closing.step_phase (stage : Closing) :
    (stage.step turn client).Keeps fun next => stage.phase ≤ next.phase := by
  cases stage with
  | starting =>
      simp only [step]
      split
      · trivial
      · exact Nat.zero_le _
  | closingFiles files =>
      apply (Step.Keeps.trivial _).lift
      · exact fun _ _ => Nat.le_refl _
      · intro client' closed
        simp only [Step.Keeps, Step.holds_running, phase]
        omega
  | shuttingDown call =>
      have bound := call.stage.phase_le
      apply call.step_phase.lift
      · exact fun next later => Nat.add_le_add_left later 2
      · intro client' answer
        simp only [Step.Keeps, Step.holds_running, phase]
        omega
  | exiting notice =>
      have bound := notice.stage.phase_le
      apply (Exiting.step_phase notice).lift
      · exact fun next later => Nat.add_le_add_left later 7
      · intro client' sent
        simp only [Step.Keeps, Step.holds_running, phase]
        omega
  | closingInput input =>
      apply (Step.Keeps.trivial _).lift
      · exact fun _ _ => Nat.le_refl _
      · intro client' closed
        simp [Step.Keeps, phase]
  | reaping =>
      simp only [step]
      split <;> simp [Step.Keeps, phase]
  | awaiting deadline =>
      simp only [step]
      split
      · simp [Step.Keeps, phase]
      · simp [Step.Keeps, phase]
      · split
        · simp [Step.Keeps, phase]
        · trivial
  | settling status => trivial

/-- No operation falls back behind a phase. -/
theorem Operation.step_phase (turn : Turn) (client : Client) (operation : Operation) :
    (operation.step turn client).Keeps fun next => operation.phase ≤ next.phase := by
  cases operation with
  | openSession stage => exact stage.step_phase.map fun _ later => later
  | close stage => exact stage.step_phase.map fun _ later => later
  | call stage => exact stage.step_phase.map fun _ later => Nat.add_le_add_left later 2
  | timedCall timed | shutdown timed =>
      exact (TimedCall.step_phase timed).map fun _ later => Nat.add_le_add_left later 2
  | closeFile path =>
      simp only [step]
      split
      · trivial
      · exact Nat.zero_le _
  | _ => exact (Step.Keeps.trivial _).map fun _ _ => Nat.zero_le _

end Steps

/-! ## Runs -/

namespace Run

variable {client : Client} {session : Session} {past : List Transition}

/-- A task that has no number yet was nowhere in the run. -/
theorem absent_of_fresh
    (run : Run (Session.connect client) past session) {task : TaskId}
    (new : session.nextTask ≤ task) {transition : Transition} (member : transition ∈ past) :
    transition.before.task? task = none ∧ transition.after.task? task = none := by
  induction run with
  | refl => cases member
  | @step past session after action run applied inductionHypothesis =>
      have newBefore := (Session.effect_of_apply applied).nextTask_le.trans new
      rcases List.mem_append.mp member with earlier | isLatest
      · exact inductionHypothesis newBefore earlier
      · obtain rfl := List.mem_singleton.mp isLatest
        exact ⟨run.hasFreshTask.task?_of_le newBefore, (run.step applied).hasFreshTask.task?_of_le new⟩

/-- Nowhere in the run was a task in a later phase than it is in now. -/
theorem phase_le
    (run : Run (Session.connect client) past session) {task : TaskId} {now : Operation}
    (found : session.task? task = some now) {transition : Transition}
    (member : transition ∈ past) {operation : Operation}
    (was : transition.before.task? task = some operation ∨
      transition.after.task? task = some operation) : operation.phase ≤ now.phase := by
  induction run generalizing now with
  | refl => cases member
  | @step past session after action run applied inductionHypothesis =>
      have fresh := run.hasFreshTask
      have origin := (Session.effect_of_apply applied).origin fresh found
      rcases List.mem_append.mp member with earlier | isLatest
      · have absent (new : session.nextTask ≤ task) : False := by
          obtain ⟨noBefore, noAfter⟩ := run.absent_of_fresh new earlier
          rcases was with before | afterwards
          · exact nomatch noBefore.symm.trans before
          · exact nomatch noAfter.symm.trans afterwards
        cases origin with
        | kept same => exact inductionHypothesis same earlier
        | begun command isAction new => exact (absent new).elim
        | asked id work new => exact (absent new).elim
        | @stepped portion before next client' isAction found' step =>
            exact (inductionHypothesis found' earlier).trans
              ((before.step_phase _ _).of_running step)
      · obtain rfl := List.mem_singleton.mp isLatest
        rcases was with before | afterwards
        · cases origin with
          | kept same =>
              obtain rfl := Option.some.inj (before.symm.trans same)
              exact Nat.le_refl _
          | begun command isAction new => exact nomatch (fresh.task?_of_le new).symm.trans before
          | asked id work new => exact nomatch (fresh.task?_of_le new).symm.trans before
          | stepped isAction found' step =>
              obtain rfl := Option.some.inj (before.symm.trans found')
              exact (Operation.step_phase _ _ _).of_running step
        · obtain rfl := Option.some.inj (afterwards.symm.trans found)
          exact Nat.le_refl _

end Run

end LanguageClient

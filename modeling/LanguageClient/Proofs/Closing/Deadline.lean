import LanguageClient.Proofs.Lifecycle.Change
import LanguageClient.Proofs.Session.Clock

/-!
# The deadlines of closing

Every wait in the closing of a client lies under one of its limits of time.  The limits add
up: at each stage there is a time by which the closing is over, and no step puts it off.
-/

namespace LanguageClient

/-! ## Parts with a limit of time -/

namespace Timed

variable {σ α : Type} {inner : Client → σ → Step σ α} {abandon : Client → σ → Client}
  {error : ClientError} {client client' : Client} {timed next : Timed σ}

/-- When a part with a limit of time is given up that is at a stage at some time. -/
def latest (now : Nat) : Timed σ → Nat
  | .waiting limit _ => now + limit
  | .underway deadline _ => deadline

theorem le_latest
    {now : Nat} (awake : ∀ wakeTime, timed.deadline? = some wakeTime → now ≤ wakeTime) :
    now ≤ timed.latest now := by
  cases timed with
  | waiting limit stage => exact Nat.le_add_right now limit
  | underway deadline stage => exact awake deadline rfl

/-- The time of a part that has not begun is not over if it has a limit. -/
theorem lt_latest_waiting
    {limit : Nat} (positive : 0 < limit) (now : Nat) (stage : σ) :
    now < (Timed.waiting limit stage).latest now :=
  Nat.lt_add_of_pos_right positive

theorem latest_of_deadline
    {deadline : Nat} (runs : timed.deadline? = some deadline) (now : Nat) :
    timed.latest now = deadline := by
  cases timed with
  | waiting limit stage => cases runs
  | underway deadline' stage => exact Option.some.inj runs

/-- A step of a part does not put off its end. -/
theorem latest_of_step_running
    (step : Timed.step inner abandon error client timed = .running client' next)
    (early : client.now ≤ timed.latest client.now) :
    next.latest client.now = timed.latest client.now ∧
      ∀ wakeTime, next.deadline? = some wakeTime → client.now ≤ wakeTime := by
  have same : next.latest client.now = timed.latest client.now := by
    cases timed with
    | waiting limit stage =>
        cases step
        rfl
    | underway deadline stage =>
        rcases of_step_running step with ⟨limit, isWaiting⟩ | ⟨deadline', same, isNext, inside⟩
        · cases isWaiting
        · cases same
          rw [isNext]
          rfl
  refine ⟨same, fun wakeTime runs => ?_⟩
  rw [← latest_of_deadline runs client.now, same]
  exact early

/-- A part that goes on begins to run or takes a step of its own. -/
theorem stage_of_step_running
    (step : Timed.step inner abandon error client timed = .running client' next) :
    (client' = client ∧ next.stage = timed.stage) ∨
      inner client timed.stage = .running client' next.stage := by
  cases timed with
  | waiting limit stage =>
      cases step
      exact Or.inl ⟨rfl, rfl⟩
  | underway deadline stage =>
      rcases of_step_running step with ⟨limit, isWaiting⟩ | ⟨_, _, _, inside⟩
      · cases isWaiting
      · exact Or.inr inside

/-- A part whose time is not over ends by itself. -/
theorem step_finished_of_early
    {result : Except ClientError α} (early : client.now < timed.latest client.now)
    (step : Timed.step inner abandon error client timed = .finished client' result) :
    inner client timed.stage = .finished client' result := by
  rcases of_step_finished step with inside | ⟨deadline, same, _, due, _⟩
  · exact inside
  · rw [same] at early
    exact absurd due (Nat.not_le.mpr early)

end Timed

/-! ## Stages -/

/-- The time that the closing of a client takes at most that has no process of a server. -/
def CloseLimits.longest (limits : CloseLimits) : Nat :=
  limits.closeFiles + limits.shutdownRequest + 2 * limits.exitNotification

namespace Closing

variable {turn : Turn} {client client' : Client} {stage next : Closing}

/-- The time by which the closing of a client is over that is at a stage at some time. -/
def latest (limits : CloseLimits) (now : Nat) : Closing → Nat
  | .starting => now + limits.longest
  | .closingFiles files =>
      files.latest now + limits.shutdownRequest + 2 * limits.exitNotification
  | .shuttingDown call => call.latest now + 2 * limits.exitNotification
  | .exiting notice => notice.latest now + limits.exitNotification
  | .closingInput input => input.latest now
  | .awaiting deadline => deadline
  | .reaping | .settling _ => now

/-- The closing has not slept beyond a deadline. -/
def IsAwake (now : Nat) (stage : Closing) : Prop :=
  ∀ wakeTime, (Operation.close stage).wakeTime? = some wakeTime → now ≤ wakeTime

theorem IsAwake.le_latest {now : Nat} (awake : stage.IsAwake now) (limits : CloseLimits) :
    now ≤ stage.latest limits now := by
  cases stage with
  | starting => exact Nat.le_add_right _ _
  | closingFiles files =>
      have inside : now ≤ files.latest now := Timed.le_latest awake
      simp only [latest]
      omega
  | shuttingDown call =>
      have inside : now ≤ call.latest now := Timed.le_latest awake
      simp only [latest]
      omega
  | exiting notice =>
      have inside : now ≤ notice.latest now := Timed.le_latest awake
      simp only [latest]
      omega
  | closingInput input => exact Timed.le_latest awake
  | awaiting deadline => exact awake deadline rfl
  | reaping | settling => exact Nat.le_refl now

/-- A wait that has a deadline is over at the same time, however late it is. -/
theorem le_latest_of_wakeTime
    {wakeTime : Nat} (waits : (Operation.close stage).wakeTime? = some wakeTime)
    (limits : CloseLimits) (now now' : Nat) :
    wakeTime ≤ stage.latest limits now ∧
      stage.latest limits now' = stage.latest limits now := by
  cases stage with
  | closingFiles files =>
      have same (now : Nat) : files.latest now = wakeTime := Timed.latest_of_deadline waits now
      rw [latest, latest, same, same]
      exact ⟨by omega, rfl⟩
  | shuttingDown call =>
      have same (now : Nat) : call.latest now = wakeTime := Timed.latest_of_deadline waits now
      rw [latest, latest, same, same]
      exact ⟨Nat.le_add_right _ _, rfl⟩
  | exiting notice =>
      have same (now : Nat) : notice.latest now = wakeTime := Timed.latest_of_deadline waits now
      rw [latest, latest, same, same]
      exact ⟨Nat.le_add_right _ _, rfl⟩
  | closingInput input =>
      have same (now : Nat) : input.latest now = wakeTime := Timed.latest_of_deadline waits now
      rw [latest, latest, same, same]
      exact ⟨Nat.le_refl _, rfl⟩
  | awaiting deadline =>
      obtain rfl := Option.some.inj waits
      exact ⟨Nat.le_refl _, rfl⟩
  | starting | reaping | settling => cases waits

/-- The closing waits nowhere but under a deadline. -/
theorem wakeTime_of_blocked (blocked : stage.step turn client = .blocked) :
    ∃ wakeTime, (Operation.close stage).wakeTime? = some wakeTime ∧ client.now < wakeTime := by
  have underway {σ : Type} {timed : Timed σ} {stage : Closing} {deadline : Nat}
      (same : timed = .underway deadline timed.stage) (early : client.now < deadline)
      (wakes : (Operation.close stage).wakeTime? = timed.deadline?) :
      ∃ wakeTime, (Operation.close stage).wakeTime? = some wakeTime ∧ client.now < wakeTime := by
    rw [same] at wakes
    exact ⟨deadline, wakes, early⟩
  cases stage with
  | starting =>
      simp only [step] at blocked
      split at blocked <;> cases blocked
  | closingFiles files =>
      obtain ⟨deadline, same, _, early⟩ := Timed.underway_of_lift blocked
      exact underway same early rfl
  | shuttingDown call =>
      obtain ⟨deadline, same, _, early⟩ := Timed.underway_of_lift blocked
      exact underway same early rfl
  | exiting notice =>
      obtain ⟨deadline, same, _, early⟩ := Timed.underway_of_lift blocked
      exact underway same early rfl
  | closingInput input =>
      obtain ⟨deadline, same, _, early⟩ := Timed.underway_of_lift blocked
      exact underway same early rfl
  | reaping =>
      simp only [step] at blocked
      split at blocked <;> cases blocked
  | awaiting deadline =>
      simp only [step] at blocked
      split at blocked
      · cases blocked
      · cases blocked
      · split at blocked
        · cases blocked
        · rename_i early
          exact ⟨deadline, rfl, Nat.lt_of_not_le early⟩
  | settling status => cases blocked

/-- No step of the closing puts off its end. -/
theorem latest_of_step_running
    (step : stage.step turn client = .running client' next) (noServer : client.server = none)
    (awake : stage.IsAwake client.now) :
    next.IsAwake client.now ∧
      next.latest client.options.limits client.now ≤
        stage.latest client.options.limits client.now := by
  have sameOptions : client'.options = client.options := by
    have fixes : (stage.step turn client).Fixes Client.options client :=
      stage.step_fixes (fun _ _ _ _ => rfl) (fun _ _ _ => rfl) (fun _ _ => rfl)
        (fun _ _ => rfl) fun _ _ => rfl
    exact fixes.of_running step
  have asleep {stage : Closing} (noTime : (Operation.close stage).wakeTime? = none) :
      stage.IsAwake client.now := by
    intro wakeTime waits
    cases noTime.symm.trans waits
  cases stage with
  | starting =>
      simp only [Closing.step] at step
      split at step
      · cases step
      · cases step
        refine ⟨asleep rfl, ?_⟩
        simp only [latest, Timed.latest, CloseLimits.longest]
        omega
  | closingFiles files =>
      have early : client.now ≤ files.latest client.now := Timed.le_latest awake
      rcases Step.lift_eq_running_iff.mp step with ⟨inner, inside, rfl⟩ | ⟨_, _, _, behind⟩
      · obtain ⟨same, stillAwake⟩ := Timed.latest_of_step_running inside early
        exact ⟨stillAwake, Nat.le_of_eq (by rw [latest, latest, same])⟩
      · cases behind
        refine ⟨asleep rfl, ?_⟩
        have next : (shutdownCall client').latest client.now =
            client.now + client.options.limits.shutdownRequest := by
          rw [← sameOptions]
          rfl
        rw [latest, latest, next]
        omega
  | shuttingDown call =>
      have early : client.now ≤ call.latest client.now := Timed.le_latest awake
      rcases Step.lift_eq_running_iff.mp step with ⟨inner, inside, rfl⟩ | ⟨_, _, _, behind⟩
      · obtain ⟨same, stillAwake⟩ := Timed.latest_of_step_running inside early
        exact ⟨stillAwake, Nat.le_of_eq (by rw [latest, latest, same])⟩
      · cases behind
        refine ⟨asleep rfl, ?_⟩
        have next : (Exiting.start client').latest client.now =
            client.now + client.options.limits.exitNotification := by
          rw [← sameOptions]
          rfl
        rw [latest, latest, next]
        omega
  | exiting notice =>
      have early : client.now ≤ notice.latest client.now := Timed.le_latest awake
      rcases Step.lift_eq_running_iff.mp step with ⟨inner, inside, rfl⟩ | ⟨_, _, _, behind⟩
      · obtain ⟨same, stillAwake⟩ := Timed.latest_of_step_running inside early
        exact ⟨stillAwake, Nat.le_of_eq (by rw [latest, latest, same])⟩
      · cases behind
        refine ⟨asleep rfl, ?_⟩
        rw [latest, latest, Timed.latest, sameOptions]
        exact Nat.add_le_add_right early _
  | closingInput input =>
      have early : client.now ≤ input.latest client.now := Timed.le_latest awake
      rcases Step.lift_eq_running_iff.mp step with ⟨inner, inside, rfl⟩ | ⟨_, _, _, behind⟩
      · obtain ⟨same, stillAwake⟩ := Timed.latest_of_step_running inside early
        exact ⟨stillAwake, Nat.le_of_eq (by rw [latest, latest, same])⟩
      · cases behind
        exact ⟨asleep rfl, early⟩
  | reaping =>
      simp only [Closing.step, noServer] at step
      cases step
      exact ⟨asleep rfl, Nat.le_refl _⟩
  | awaiting deadline =>
      simp only [Closing.step, noServer] at step
      cases step
      exact ⟨asleep rfl, awake deadline rfl⟩
  | settling status => cases step

end Closing

end LanguageClient

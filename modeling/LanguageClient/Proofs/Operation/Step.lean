import LanguageClient.Operation.Basic

/-!
# What a step comes to

A property of every way in which a step of an operation can come out, and how it
passes from the parts of an operation to the whole.
-/

namespace LanguageClient

namespace Step

variable {σ τ α β : Type}

/-- Whatever a step comes to has a property; one that has to wait changes nothing. -/
def Holds
    (running : Client → σ → Prop) (finished : Client → Except ClientError α → Prop) :
    Step σ α → Prop
  | .blocked => True
  | .running client stage => running client stage
  | .finished client result => finished client result

section Holds

variable {running : Client → σ → Prop} {finished : Client → Except ClientError α → Prop}

@[simp]
theorem holds_blocked : (Step.blocked : Step σ α).Holds running finished :=
  trivial

@[simp]
theorem holds_running (client : Client) (stage : σ) :
    (Step.running client stage : Step σ α).Holds running finished ↔ running client stage :=
  Iff.rfl

@[simp]
theorem holds_finished (client : Client) (result : Except ClientError α) :
    (Step.finished client result : Step σ α).Holds running finished ↔ finished client result :=
  Iff.rfl

theorem Holds.mono
    {running' : Client → σ → Prop} {finished' : Client → Except ClientError α → Prop}
    {step : Step σ α} (holds : step.Holds running finished)
    (ofRunning : ∀ client stage, running client stage → running' client stage)
    (ofFinished : ∀ client result, finished client result → finished' client result) :
    step.Holds running' finished' := by
  cases step with
  | blocked => trivial
  | running client stage => exact ofRunning client stage holds
  | finished client result => exact ofFinished client result holds

theorem Holds.of_running
    {step : Step σ α} (holds : step.Holds running finished) {client : Client} {stage : σ}
    (equality : step = .running client stage) : running client stage := by
  subst equality
  exact holds

theorem Holds.of_finished
    {step : Step σ α} (holds : step.Holds running finished) {client : Client}
    {result : Except ClientError α} (equality : step = .finished client result) :
    finished client result := by
  subst equality
  exact holds

end Holds

variable {running : Client → τ → Prop} {finished : Client → Except ClientError β → Prop}

/-- The step of a part, seen from the whole. -/
@[simp]
theorem holds_lift
    (step : Step σ α) (stage : σ → τ) (next : Client → Except ClientError α → Step τ β) :
    (step.lift stage next).Holds running finished ↔
      step.Holds (fun client inner => running client (stage inner))
        (fun client result => (next client result).Holds running finished) := by
  cases step <;> rfl

@[simp]
theorem holds_map (step : Step σ α) (stage : σ → τ) (value : α → β) :
    (step.map stage value).Holds running finished ↔
      step.Holds (fun client inner => running client (stage inner))
        (fun client result => finished client (result.map value)) := by
  cases step <;> rfl

/-- The whole goes on when its part does, or when what follows the part does. -/
theorem lift_eq_running_iff
    {step : Step σ α} {stage : σ → τ} {next : Client → Except ClientError α → Step τ β}
    {client : Client} {outer : τ} :
    step.lift stage next = .running client outer ↔
      (∃ inner, step = .running client inner ∧ stage inner = outer) ∨
        ∃ client' result, step = .finished client' result ∧
          next client' result = .running client outer := by
  cases step with
  | blocked => simp [lift]
  | running => simp [lift, and_assoc]
  | finished => simp [lift, and_assoc]

/-- The whole is over when what follows the part is. -/
theorem lift_eq_finished_iff
    {step : Step σ α} {stage : σ → τ} {next : Client → Except ClientError α → Step τ β}
    {client : Client} {result : Except ClientError β} :
    step.lift stage next = .finished client result ↔
      ∃ client' inner, step = .finished client' inner ∧
        next client' inner = .finished client result := by
  cases step with
  | blocked | running => simp [lift]
  | finished => simp [lift, and_assoc]

/-- The whole goes on exactly as its part does. -/
theorem map_eq_running_iff
    {step : Step σ α} {stage : σ → τ} {value : α → β} {client : Client} {next : τ} :
    step.map stage value = .running client next ↔
      ∃ inner, step = .running client inner ∧ stage inner = next := by
  cases step with
  | blocked | finished => simp [map, lift]
  | running => simp [map, lift, and_assoc]

/-- The whole is over exactly when its part is. -/
theorem map_eq_finished_iff
    {step : Step σ α} {stage : σ → τ} {value : α → β} {client : Client}
    {result : Except ClientError β} :
    step.map stage value = .finished client result ↔
      ∃ inner, step = .finished client inner ∧ inner.map value = result := by
  cases step with
  | blocked | running => simp [map, lift]
  | finished => simp [map, lift, and_assoc]

end Step

namespace Timed

variable {σ α : Type}

/-- A part with a limit of time begins to run, steps as it would without, or is
given up where it has to wait and its deadline has come. -/
theorem step_holds
    {inner : Client → σ → Step σ α} {abandon : Client → σ → Client} {error : ClientError}
    {client : Client} {timed : Timed σ}
    {running : Client → Timed σ → Prop} {finished : Client → Except ClientError α → Prop}
    (begins : ∀ limit stage, timed = .waiting limit stage →
      running client (.underway (client.now + limit) stage))
    (steps : ∀ deadline stage, timed = .underway deadline stage →
      (inner client stage).Holds
        (fun client stage => running client (.underway deadline stage)) finished)
    (expires : ∀ deadline stage, timed = .underway deadline stage →
      inner client stage = .blocked → deadline ≤ client.now →
        finished (abandon client stage) (.error error)) :
    (Timed.step inner abandon error client timed).Holds running finished := by
  cases timed with
  | waiting limit stage => exact begins limit stage rfl
  | underway deadline stage =>
      have inside := steps deadline stage rfl
      have expired := expires deadline stage rfl
      unfold Timed.step
      cases innerStep : inner client stage with
      | blocked =>
          by_cases due : deadline ≤ client.now
          · simpa [innerStep, due] using expired innerStep due
          · simp [innerStep, due]
      | running client' stage' => simpa [innerStep] using inside
      | finished client' result => simpa [innerStep] using inside

/-- How a part with a limit of time goes on. -/
theorem of_step_running
    {inner : Client → σ → Step σ α} {abandon : Client → σ → Client} {error : ClientError}
    {client client' : Client} {timed next : Timed σ}
    (step : Timed.step inner abandon error client timed = .running client' next) :
    (∃ limit, timed = .waiting limit next.stage) ∨
      ∃ deadline, timed = .underway deadline timed.stage ∧
        next = .underway deadline next.stage ∧
          inner client timed.stage = .running client' next.stage := by
  cases timed with
  | waiting limit stage =>
      cases step
      exact Or.inl ⟨limit, rfl⟩
  | underway deadline stage =>
      simp only [Timed.step] at step
      split at step
      · split at step <;> cases step
      · rename_i inside
        cases step
        exact Or.inr ⟨deadline, rfl, rfl, inside⟩
      · cases step

/-- A part with a limit of time is over by itself, or where it has to wait when its deadline
has come. -/
theorem of_step_finished
    {inner : Client → σ → Step σ α} {abandon : Client → σ → Client} {error : ClientError}
    {client client' : Client} {timed : Timed σ} {result : Except ClientError α}
    (step : Timed.step inner abandon error client timed = .finished client' result) :
    inner client timed.stage = .finished client' result ∨
      ∃ deadline, timed = .underway deadline timed.stage ∧
        inner client timed.stage = .blocked ∧ deadline ≤ client.now ∧
          client' = abandon client timed.stage ∧ result = .error error := by
  cases timed with
  | waiting limit stage => cases step
  | underway deadline stage =>
      simp only [Timed.step] at step
      split at step
      · rename_i inside
        split at step
        · rename_i due
          cases step
          exact Or.inr ⟨deadline, rfl, inside, due, rfl, rfl⟩
        · cases step
      · cases step
      · rename_i inside
        cases step
        exact Or.inl inside

/-- A part with a limit of time that is over without an error was over by itself. -/
theorem of_step_finished_ok
    {inner : Client → σ → Step σ α} {abandon : Client → σ → Client} {error : ClientError}
    {client client' : Client} {timed : Timed σ} {value : α}
    (step : Timed.step inner abandon error client timed = .finished client' (.ok value)) :
    inner client timed.stage = .finished client' (.ok value) := by
  rcases of_step_finished step with inside | ⟨_, _, _, _, _, isError⟩
  · exact inside
  · cases isError

end Timed

end LanguageClient

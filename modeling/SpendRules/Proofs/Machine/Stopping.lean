import SpendRules.Proofs.Machine.SignatureChecks

namespace SpendRules

/-!
# Failures of whole scripts

A step that fails does so with one of certain failures.  This goes through
sequencing, so it holds of a whole run as soon as it holds of what a run is put
together from.
-/

namespace Sequencing

variable {ε σ α β : Type} {admitted : ε -> Prop}

/-- Every failure of the step is an admitted one. -/
def FailsOnly (admitted : ε -> Prop) (step : EStateM ε σ α) : Prop :=
  forall state failure after, step state = .error failure after -> admitted failure

namespace FailsOnly

theorem pure (value : α) : FailsOnly admitted (Pure.pure value : EStateM ε σ α) := by
  intro state failure after impossible
  cases impossible

theorem throw {failure : ε} (admits : admitted failure) :
    FailsOnly admitted (MonadExcept.throw failure : EStateM ε σ α) := by
  intro state found after failed
  cases failed
  exact admits

theorem get : FailsOnly admitted (MonadState.get : EStateM ε σ σ) := by
  intro state failure after impossible
  cases impossible

theorem modify (change : σ -> σ) : FailsOnly admitted (modify change : EStateM ε σ PUnit) := by
  intro state failure after impossible
  cases impossible

/-- What comes second has to fail so only for values that the first step gives. -/
theorem sequence {first : EStateM ε σ α} {next : α -> EStateM ε σ β}
    (firstFails : FailsOnly admitted first)
    (nextFails : forall value, (exists state after, first state = .ok value after) ->
      FailsOnly admitted (next value)) :
    FailsOnly admitted (first >>= next) := by
  intro state failure after failed
  change EStateM.bind first next state = .error failure after at failed
  unfold EStateM.bind at failed
  cases result : first state with
  | ok value middle =>
      rw [result] at failed
      exact nextFails value ⟨state, middle, result⟩ middle failure after failed
  | error found middle =>
      rw [result] at failed
      cases failed
      exact firstFails state failure after result

theorem bind {first : EStateM ε σ α} {next : α -> EStateM ε σ β}
    (firstFails : FailsOnly admitted first)
    (nextFails : forall value, FailsOnly admitted (next value)) :
    FailsOnly admitted (first >>= next) :=
  firstFails.sequence fun value _ => nextFails value

theorem ite {condition : Prop} [Decidable condition] {first second : EStateM ε σ α}
    (taken : FailsOnly admitted first) (passed : FailsOnly admitted second) :
    FailsOnly admitted (if condition then first else second) := by
  by_cases holds : condition
  · rwa [if_pos holds]
  · rwa [if_neg holds]

theorem mono {other : ε -> Prop} {step : EStateM ε σ α} (fails : FailsOnly admitted step)
    (weaker : forall failure, admitted failure -> other failure) : FailsOnly other step :=
  fun state failure after failed => weaker failure (fails state failure after failed)

end FailsOnly

end Sequencing

namespace Comparison

/-- The first step fails only with what scripts stop with.  The second step does
not matter. -/
def stopping : Comparison where
  below := []
  holds first _ := Sequencing.FailsOnly (fun failure => failure.stopsScripts = true) first
  pure value := .pure value
  fail _ _ _ stops := .throw (ScriptError.stopsScripts_of_stopsSteps stops)
  look := by
    intro α next next' stops
    exact Sequencing.FailsOnly.bind .get stops
  sequence := by
    intro α β first second next next' stops nextStops
    exact Sequencing.FailsOnly.sequence stops nextStops

end Comparison

namespace Interpreter

variable (vm : Interpreter)

private theorem covers_stopping : Covers Comparison.stopping vm :=
  covers_of_metrics vm (.of_modify rfl (.throw rfl) fun change _ _ => .modify change)
    (fun _ => .modify _) fun _ => .modify _

/-- Evaluating a script fails only with what scripts stop with. -/
theorem evaluate_failsOnly (script : Script) :
    Sequencing.FailsOnly (fun failure => failure.stopsScripts = true) (vm.evaluate script) := by
  have covers := covers_stopping vm
  have run := covers.run rfl script
  intro session failure after failed
  rcases run_of_evaluate_eq_error failed with rfl | ⟨machine, result⟩
  · rfl
  · exact run _ _ _ result

end Interpreter
end SpendRules

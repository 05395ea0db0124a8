import SpendRules.Proofs.Sequencing

namespace SpendRules

/-!
# Where steps end

A step that fails does not undo what it did before.  What holds of all runs,
whether they succeed or fail, is therefore a statement about the state in which
a step ends and the state in which it started.  When such a relation holds
between a state and itself, and can be chained, it goes through sequencing: a
failure ends the whole where it ends its part.
-/

namespace Sequencing

variable {ε σ α β : Type}

/-- The state in which a step ends, whether it succeeds or fails. -/
def finalState (step : EStateM ε σ α) (state : σ) : σ :=
  match step state with
  | .ok _ after => after
  | .error _ after => after

variable {first : EStateM ε σ α} {state middle : σ}

theorem finalState_of_ok {value : α} (success : first state = .ok value middle) :
    finalState first state = middle := by
  rw [finalState, success]

theorem finalState_of_error {failure : ε} (failed : first state = .error failure middle) :
    finalState first state = middle := by
  rw [finalState, failed]

/-- After a success, the rest goes on with what the first step gave and left. -/
theorem bind_of_ok {value : α} (success : first state = .ok value middle)
    (next : α -> EStateM ε σ β) :
    (first >>= next) state = next value middle := by
  change EStateM.bind first next state = next value middle
  rw [EStateM.bind, success]

theorem bind_of_error {failure : ε} (failed : first state = .error failure middle)
    (next : α -> EStateM ε σ β) :
    (first >>= next) state = .error failure middle := by
  change EStateM.bind first next state = .error failure middle
  rw [EStateM.bind, failed]

theorem finalState_bind_of_ok {value : α} (success : first state = .ok value middle)
    (next : α -> EStateM ε σ β) :
    finalState (first >>= next) state = finalState (next value) middle := by
  rw [finalState, bind_of_ok success, ← finalState]

theorem finalState_bind_of_error {failure : ε} (failed : first state = .error failure middle)
    (next : α -> EStateM ε σ β) : finalState (first >>= next) state = middle :=
  finalState_of_error (bind_of_error failed next)

end Sequencing

/-- A relation between an earlier and a later state, which holds when nothing has
happened in between and when one thing has happened after another. -/
structure Progress (σ : Type) where
  leads : σ -> σ -> Prop
  refl : forall state, leads state state
  trans : forall first second third, leads first second -> leads second third -> leads first third

namespace Progress

open Sequencing

variable {ε σ τ α β : Type}

/-- A progress of what a function reads off the states. -/
def on (progress : Progress τ) (read : σ -> τ) : Progress σ where
  leads before after := progress.leads (read before) (read after)
  refl state := progress.refl (read state)
  trans first second third := progress.trans (read first) (read second) (read third)

/-- Nothing changes. -/
def still : Progress σ where
  leads before after := after = before
  refl _ := rfl
  trans _ _ _ first second := second.trans first

/-- The step, from the given state, leads to the state in which it ends. -/
def Along (progress : Progress σ) (step : EStateM ε σ α) (state : σ) : Prop :=
  progress.leads state (finalState step state)

namespace Along

variable {progress : Progress σ} {state : σ}

theorem pure (value : α) : progress.Along (Pure.pure value : EStateM ε σ α) state :=
  progress.refl state

theorem throw (failure : ε) : progress.Along (MonadExcept.throw failure : EStateM ε σ α) state :=
  progress.refl state

theorem modify {change : σ -> σ} (leads : progress.leads state (change state)) :
    progress.Along (modify change : EStateM ε σ PUnit) state :=
  leads

theorem look {next : σ -> EStateM ε σ α} (along : progress.Along (next state) state) :
    progress.Along (get >>= next) state :=
  along

/-- What comes second starts where the first step ends. -/
theorem bind {first : EStateM ε σ α} {next : α -> EStateM ε σ β}
    (along : progress.Along first state)
    (nextAlong : forall value middle, first state = .ok value middle ->
      progress.Along (next value) middle) :
    progress.Along (first >>= next) state := by
  cases result : first state with
  | ok value middle =>
      have led : progress.leads state middle := finalState_of_ok result ▸ along
      rw [Along, finalState_bind_of_ok result]
      exact progress.trans _ _ _ led (nextAlong value middle result)
  | error failure middle =>
      have led : progress.leads state middle := finalState_of_error result ▸ along
      rwa [Along, finalState_bind_of_error result]

theorem ite {condition : Prop} [Decidable condition] {first second : EStateM ε σ α}
    (taken : condition -> progress.Along first state)
    (passed : ¬ condition -> progress.Along second state) :
    progress.Along (if condition then first else second) state := by
  by_cases holds : condition
  · rw [if_pos holds]
    exact taken holds
  · rw [if_neg holds]
    exact passed holds

end Along

end Progress

end SpendRules

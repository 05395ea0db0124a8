namespace SpendRules

/-!
# Successes of sequenced steps

Reads, steps of a machine and whole evaluations are functions of a state that
may fail.  What has to be known about such a function is nearly always what
one of its successes looks like.  The equivalences below take a success of a
composed step apart into successes of its parts, and put it together again,
without any case analysis on the result of a part.
-/

namespace Sequencing

variable {ε σ α β : Type} {state after : σ}

/-- Two steps succeed one after another when the first one succeeds and the
second one succeeds on what the first one left. -/
theorem bind_eq_ok_iff {first : EStateM ε σ α} {next : α -> EStateM ε σ β} {value : β} :
    (first >>= next) state = .ok value after ↔
      ∃ found middle, first state = .ok found middle ∧ next found middle = .ok value after := by
  change EStateM.bind first next state = .ok value after ↔ _
  unfold EStateM.bind
  cases result : first state with
  | ok found middle =>
      constructor
      · intro rest
        exact ⟨found, middle, rfl, rest⟩
      · rintro ⟨_, _, same, rest⟩
        cases same
        exact rest
  | error failure middle =>
      constructor
      · intro impossible
        cases impossible
      · rintro ⟨_, _, impossible, _⟩
        cases impossible

/-- What follows a step matters only for what the step gives. -/
theorem bind_congr {first : EStateM ε σ α} {next next' : α -> EStateM ε σ β}
    (same : forall value middle, first state = .ok value middle ->
      next value middle = next' value middle) :
    (first >>= next) state = (first >>= next') state := by
  change EStateM.bind first next state = EStateM.bind first next' state
  unfold EStateM.bind
  cases result : first state with
  | ok value middle => exact same value middle result
  | error failure middle => rfl

/-- A function applied to what a step gives neither causes nor hides a failure. -/
theorem map_eq_error_iff {function : α -> β} {step : EStateM ε σ α} {failure : ε} :
    (function <$> step) state = .error failure after ↔ step state = .error failure after := by
  change EStateM.map function step state = _ ↔ _
  unfold EStateM.map
  cases step state with
  | ok value middle => exact iff_of_false nofun nofun
  | error found middle =>
      dsimp only
      rw [EStateM.Result.error.injEq, EStateM.Result.error.injEq]

theorem pure_eq_ok_iff {given value : α} :
    (pure given : EStateM ε σ α) state = .ok value after ↔ given = value ∧ state = after := by
  change EStateM.Result.ok given state = .ok value after ↔ _
  rw [EStateM.Result.ok.injEq]

theorem throw_ne_ok {failure : ε} {value : α} :
    (throw failure : EStateM ε σ α) state ≠ .ok value after := by
  intro impossible
  cases impossible

theorem modify_eq_ok_iff {change : σ -> σ} {value : PUnit} :
    (modify change : EStateM ε σ PUnit) state = .ok value after ↔ change state = after := by
  change EStateM.Result.ok PUnit.unit (change state) = .ok value after ↔ _
  rw [EStateM.Result.ok.injEq]
  exact and_iff_right rfl

/-- A refusal before the rest of a step. -/
theorem unless_eq_ok_iff {refused : Prop} [Decidable refused] {failure : ε} {step : EStateM ε σ α}
    {value : α} :
    (if refused then throw failure else step) state = .ok value after ↔
      ¬ refused ∧ step state = .ok value after := by
  by_cases holds : refused
  · rw [if_pos holds]
    constructor
    · intro impossible
      exact (throw_ne_ok impossible).elim
    · intro passed
      exact (passed.1 holds).elim
  · rw [if_neg holds]
    exact (and_iff_right holds).symm

theorem get_bind (next : σ -> EStateM ε σ α) : (get >>= next) state = next state state := rfl

theorem modify_bind (change : σ -> σ) (next : PUnit -> EStateM ε σ α) :
    (modify change >>= next) state = next ⟨⟩ (change state) := rfl

/-- Nothing follows a failure. -/
theorem throw_bind (failure : ε) (next : α -> EStateM ε σ β) :
    (throw failure : EStateM ε σ α) >>= next = throw failure := rfl

/-! ## Computations without a state -/

/-- A refusal before the rest of a computation. -/
theorem refuse_eq_ok_iff {refused : Prop} [Decidable refused] {failure : ε} {rest : Except ε α}
    {value : α} :
    (if refused then .error failure else rest) = .ok value ↔ ¬ refused ∧ rest = .ok value := by
  by_cases holds : refused
  · rw [if_pos holds]
    constructor
    · intro impossible
      cases impossible
    · intro passed
      exact (passed.1 holds).elim
  · rw [if_neg holds]
    exact (and_iff_right holds).symm

/-- A check before the rest of a computation. -/
theorem check_bind_eq_ok_iff {check : Except ε Unit} {next : Unit -> Except ε α} {value : α} :
    (check >>= next) = .ok value ↔ check = .ok () ∧ next () = .ok value := by
  cases check with
  | ok => exact (and_iff_right rfl).symm
  | error failure =>
      constructor
      · intro impossible
        cases impossible
      · rintro ⟨impossible, _⟩
        cases impossible

end Sequencing

end SpendRules

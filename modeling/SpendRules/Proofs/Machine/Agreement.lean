import SpendRules.Proofs.Machine.Comparison

namespace SpendRules

/-!
# Agreement but for one failure

One step may stop where another one goes on, for want of something that only
the other one has.  Apart from this failure, both may still do the same.  The
failure must not be caught anywhere, and steps catch no failure; so agreement
of this kind goes through sequencing.
-/

namespace Sequencing

variable {ε σ α β : Type} {failure : ε}

/-- Both steps have the same result from every state, unless the first one
fails in the given way. -/
def AgreeUnless (failure : ε) (first second : EStateM ε σ α) : Prop :=
  forall state, (exists after, first state = .error failure after) ∨ first state = second state

namespace AgreeUnless

theorem refl (step : EStateM ε σ α) : AgreeUnless failure step step :=
  fun _ => Or.inr rfl

/-- What comes second has to agree only for values that the first step gives. -/
theorem sequence {first second : EStateM ε σ α} {next next' : α -> EStateM ε σ β}
    (agree : AgreeUnless failure first second)
    (nextAgree : forall value, (exists state after, first state = .ok value after) ->
      AgreeUnless failure (next value) (next' value)) :
    AgreeUnless failure (first >>= next) (second >>= next') := by
  intro state
  change (exists after, EStateM.bind first next state = .error failure after) ∨
    EStateM.bind first next state = EStateM.bind second next' state
  unfold EStateM.bind
  rcases agree state with ⟨after, failed⟩ | same
  · rw [failed]
    exact Or.inl ⟨after, rfl⟩
  · rw [← same]
    cases result : first state with
    | ok value middle => exact nextAgree value ⟨state, middle, result⟩ middle
    | error other after => exact Or.inr rfl

theorem bind {first second : EStateM ε σ α} {next next' : α -> EStateM ε σ β}
    (agree : AgreeUnless failure first second)
    (nextAgree : forall value, AgreeUnless failure (next value) (next' value)) :
    AgreeUnless failure (first >>= next) (second >>= next') :=
  agree.sequence fun value _ => nextAgree value

theorem ite {condition : Prop} [Decidable condition] {first second first' second' : EStateM ε σ α}
    (taken : AgreeUnless failure first first') (passed : AgreeUnless failure second second') :
    AgreeUnless failure (if condition then first else second)
      (if condition then first' else second') := by
  by_cases holds : condition
  · rw [if_pos holds, if_pos holds]
    exact taken
  · rw [if_neg holds, if_neg holds]
    exact passed

/-- The given failure may stand on the first side only. -/
theorem throw (step : EStateM ε σ α) : AgreeUnless failure (MonadExcept.throw failure) step :=
  fun state => Or.inl ⟨state, rfl⟩

end AgreeUnless

end Sequencing

namespace Comparison

/-- Steps of a machine that agree but for one failure. -/
def agreement (failure : ScriptError) : Comparison where
  below := []
  holds first second := Sequencing.AgreeUnless failure first second
  pure _ := .refl _
  fail other second same _ := by
    rw [same rfl]
    exact .refl _
  look agree := by
    refine (Sequencing.AgreeUnless.refl _).bind fun machine => ?_
    have agreed := agree machine
    rwa [Machine.atop_nil] at agreed
  sequence agree nextAgree := agree.sequence nextAgree

theorem agreement_ofExcept {failure : ScriptError} {α : Type} {first second : Except ScriptError α}
    (agree : first = .error failure ∨ first = second) :
    (agreement failure).holds (Step.ofExcept first) (Step.ofExcept second) := by
  rcases agree with rfl | rfl
  · exact .throw _
  · exact .refl _

end Comparison

end SpendRules

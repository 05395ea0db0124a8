import SpendRules.SpendingContext

namespace SpendRules

/-!
# What a context knows

The context of a spending holds one input and some of the outputs that are
spent.  Two contexts of one spending can only differ in these outputs.  A
context that knows more gives every answer that one that knows less can give.
-/

namespace SpentOutputs

/-- The outputs that the caller knows to be spent. -/
def outputs : SpentOutputs -> List Output
  | .single output => [output]
  | .all outputs => outputs

/-- The output that the input at an index spends. -/
def output? : SpentOutputs -> Nat -> Option Output
  | .single output, _ => some output
  | .all outputs, index => outputs[index]?

end SpentOutputs

namespace SpendingContext

variable {context other : SpendingContext}

/-- The index determines the input. -/
theorem input_congr (tx : context.tx = other.tx) (index : context.index = other.index) :
    context.input = other.input := by
  have found := context.input_eq
  rw [tx, index, other.input_eq] at found
  exact (Option.some.inj found).symm

/-- The outputs that the context holds: those that are created and those that
are known to be spent. -/
def outputs (context : SpendingContext) : List Output :=
  context.tx.outputs ++ context.spent :: context.allSpent.getD []

theorem mem_outputs_of_created {output : Output} (created : output ∈ context.tx.outputs) :
    output ∈ context.outputs :=
  List.mem_append_left _ created

/-- An output that is spent is looked up among those that are known. -/
theorem mem_outputs_of_spentBy {output : Output} {index : Nat}
    (spent : context.spentBy index = .ok output) :
    output ∈ context.outputs := by
  apply List.mem_append_right
  unfold spentBy at spent
  split at spent
  · cases spent
  split at spent
  · cases spent
    exact List.mem_cons_self
  split at spent
  · cases spent
  · rename_i outputs known
    split at spent
    · rename_i found
      cases spent
      rw [known, Option.getD_some]
      exact List.mem_cons_of_mem _ (List.mem_of_getElem? found)
    · cases spent

/-- A context is made up of what the caller supplies. -/
theorem eq_of_of {tx : Transaction} {index : Nat} {spent : SpentOutputs}
    (found : of tx index spent = .ok context) :
    context.tx = tx ∧ spent.output? index = some context.spent ∧
      forall output, output ∈ context.outputs -> output ∈ tx.outputs ++ spent.outputs := by
  cases spent with
  | single output =>
      change ofSingle tx index output = .ok context at found
      unfold ofSingle at found
      split at found
      · cases found
        exact ⟨rfl, rfl, fun _ member => member⟩
      · cases found
  | all outputs =>
      change ofAll tx index outputs = .ok context at found
      unfold ofAll at found
      split at found
      · split at found
        · rename_i same bound
          cases found
          refine ⟨rfl, List.getElem?_eq_getElem (same ▸ bound), fun output member => ?_⟩
          rcases List.mem_append.mp member with created | known
          · exact List.mem_append_left _ created
          · apply List.mem_append_right
            rcases List.mem_cons.mp known with rfl | supplied
            · exact List.getElem_mem _
            · exact supplied
        · cases found
      · cases found

/-- The other context belongs to the same spending, and it knows at least as
much. -/
structure IsPartOf (context other : SpendingContext) : Prop where
  tx : context.tx = other.tx
  index : context.index = other.index
  spent : context.spent = other.spent
  allSpent : forall outputs, context.allSpent = some outputs -> other.allSpent = some outputs

/-- There is a context that knows one output and one that knows all of them,
and the first one is part of the second one. -/
theorem exists_isPartOf {tx : Transaction} {index : Nat} {outputs : List Output}
    (same : outputs.length = tx.inputs.length) (bound : index < outputs.length) :
    exists context other, of tx index (.single outputs[index]) = .ok context ∧
      of tx index (.all outputs) = .ok other ∧ context.IsPartOf other := by
  change exists context other, ofSingle tx index outputs[index] = .ok context ∧
    ofAll tx index outputs = .ok other ∧ _
  unfold ofSingle ofAll
  rw [dif_pos same, dif_pos (same ▸ bound), dif_pos (same ▸ bound)]
  exact ⟨_, _, rfl, rfl, rfl, rfl, rfl, fun _ absent => nomatch absent⟩

namespace IsPartOf

variable (part : context.IsPartOf other)

include part

theorem input : context.input = other.input :=
  input_congr part.tx part.index

/-- What the lesser context knows is the same in the greater one. -/
theorem spentBy (index : Nat) :
    context.spentBy index = .error .contextUnavailable ∨
      context.spentBy index = other.spentBy index := by
  unfold SpendingContext.spentBy
  rw [part.tx, part.index, part.spent]
  split
  · exact Or.inr rfl
  split
  · exact Or.inr rfl
  cases known : context.allSpent with
  | none => exact Or.inl rfl
  | some outputs =>
      rw [part.allSpent outputs known]
      exact Or.inr rfl

end IsPartOf

end SpendingContext

end SpendRules

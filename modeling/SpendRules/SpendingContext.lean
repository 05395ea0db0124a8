import SpendRules.Failure
import SpendRules.Transaction

namespace SpendRules

/-!
# The context of a spending

A script is run for one input of one transaction.  What it can learn about the outputs that
are spent depends on the caller: either the output spent by this input alone, or the outputs
spent by all inputs.  The caller supplies them; nothing is looked up here.
-/

/-- One input of a transaction with the outputs that are known to be spent. -/
structure SpendingContext where
  tx : Transaction
  index : Nat
  input : Input
  input_eq : tx.inputs[index]? = some input
  /-- The output spent by this input. -/
  spent : Output
  /-- The outputs spent by all inputs, when they are known. -/
  allSpent : Option (List Output)
  allSpent_eq : ∀ outputs, allSpent = some outputs ->
    outputs.length = tx.inputs.length ∧ outputs[index]? = some spent

/-- What a caller knows about the outputs that are spent. -/
inductive SpentOutputs where
  /-- The output spent by one input. -/
  | single (output : Output)
  /-- The outputs spent by all inputs, in their order. -/
  | all (outputs : List Output)

namespace SpendingContext

/-- The context that knows only the output spent by its input. -/
def ofSingle (tx : Transaction) (index : Nat) (spent : Output) :
    Except ScriptError SpendingContext :=
  if bound : index < tx.inputs.length then
    .ok {
      tx := tx
      index := index
      input := tx.inputs[index]
      input_eq := List.getElem?_eq_getElem bound
      spent := spent
      allSpent := none
      allSpent_eq := fun _ absent => nomatch absent }
  else .error .invalidTxInputIndex

/-- The context that knows the outputs spent by all inputs.  Their number is checked before
the index. -/
def ofAll (tx : Transaction) (index : Nat) (outputs : List Output) :
    Except ScriptError SpendingContext :=
  if same : outputs.length = tx.inputs.length then
    if bound : index < tx.inputs.length then
      .ok {
        tx := tx
        index := index
        input := tx.inputs[index]
        input_eq := List.getElem?_eq_getElem bound
        spent := outputs[index]
        allSpent := some outputs
        allSpent_eq := fun _ present => by
          cases present
          exact ⟨same, List.getElem?_eq_getElem (same ▸ bound)⟩ }
    else .error .invalidTxInputIndex
  else .error .contextUnavailable

def of (tx : Transaction) (index : Nat) : SpentOutputs -> Except ScriptError SpendingContext
  | .single output => ofSingle tx index output
  | .all outputs => ofAll tx index outputs

/-- The output spent by some input of the transaction. -/
def spentBy (context : SpendingContext) (index : Nat) : Except ScriptError Output :=
  if index ≥ context.tx.inputs.length then .error .invalidTxInputIndex
  else if index = context.index then .ok context.spent
  else
    match context.allSpent with
    | none => .error .contextUnavailable
    | some outputs =>
      match outputs[index]? with
      | some output => .ok output
      | none => .error .contextUnavailable

end SpendingContext

end SpendRules

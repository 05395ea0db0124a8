import SpendRules.Machine

namespace SpendRules
namespace Interpreter

/-!
# Questions about the transaction

Scripts can ask for parts of the spending transaction and of the outputs that it spends.
Questions about an input or an output take its index from the top of the stack.
-/

variable (vm : Interpreter)

/-- Remove the top element as an index into a list. -/
def popElementOf {α : Type} (elements : List α) (failure : ScriptError) : Step (Nat × α) := do
  let index <- vm.popIndex
  if index < 0 then throw failure
  match elements[index.toNat]? with
  | some element => return (index.toNat, element)
  | none => throw failure

def popInput (context : SpendingContext) : Step (Nat × Input) :=
  vm.popElementOf context.tx.inputs .invalidTxInputIndex

def popCreated (context : SpendingContext) : Step Output := do
  return (<- vm.popElementOf context.tx.outputs .invalidTxOutputIndex).2

/-- Remove the top element as the index of an input, and take the output that it spends. -/
def popSpent (context : SpendingContext) : Step Output := do
  let (index, _) <- vm.popInput context
  Step.ofExcept (context.spentBy index)

def introspect (question : Introspection) : Step Unit := do
  if !vm.enables .nativeIntrospection then throw .badOpcode
  let context <- vm.demandContext
  match question with
  | .inputIndex => vm.pushNumber context.index
  | .activeBytecode => vm.pushBounded (<- get).scriptCode.bytes
  | .txVersion => vm.pushNumber context.tx.version.toInt32.toInt
  | .txInputCount => vm.pushNumber context.tx.inputs.length
  | .txOutputCount => vm.pushNumber context.tx.outputs.length
  | .txLockTime => vm.pushNumber context.tx.lockTime.toNat
  | .utxoValue => do
    let output <- vm.popSpent context
    vm.pushNumber output.value.toNat
  | .utxoBytecode => do
    let output <- vm.popSpent context
    vm.pushBounded output.script.bytes
  | .outpointTxHash => do
    let (_, input) <- vm.popInput context
    vm.push input.prevout.hash.bytes
  | .outpointIndex => do
    let (_, input) <- vm.popInput context
    vm.pushNumber input.prevout.index.toNat
  | .inputBytecode => do
    let (_, input) <- vm.popInput context
    vm.pushBounded input.script.bytes
  | .inputSequence => do
    let (_, input) <- vm.popInput context
    vm.pushNumber input.sequence.toNat
  | .outputValue => do
    let output <- vm.popCreated context
    vm.pushNumber output.value.toNat
  | .outputBytecode => do
    let output <- vm.popCreated context
    vm.pushBounded output.script.bytes

/-- The category of a token, followed by its capability when that permits more than holding
it; empty without token. -/
def categoryElement : Option Token -> Bytes
  | none => []
  | some token =>
    match token.capability? with
    | some .mutable => token.category.bytes ++ [Capability.mutable.toByte]
    | some .minting => token.category.bytes ++ [Capability.minting.toByte]
    | some .immutable | none => token.category.bytes

/-- Answer a question about the token of an output. -/
def introspectToken (side : TokenSide) (part : TokenPart) : Step Unit := do
  if !vm.enables .tokens then throw .badOpcode
  let context <- vm.demandContext
  let output <-
    match side with
    | .spent => vm.popSpent context
    | .created => vm.popCreated context
  match part with
  | .category => vm.push (categoryElement output.token)
  | .commitment => vm.push ((output.token.map Token.commitment).getD [])
  | .amount => vm.pushNumber ((output.token.map Token.amountOrZero).getD 0).toInt

end Interpreter
end SpendRules

import SpendRules.Machine.Arithmetic
import SpendRules.Machine.Introspection
import SpendRules.Machine.LockTime
import SpendRules.Machine.Rearrangement
import SpendRules.Machine.SignatureChecks
import SpendRules.Machine.Splice

namespace SpendRules
namespace Interpreter

/-!
# Running a script

Each instruction is first checked for what holds in every branch, then carried out if all
open branches are taken, and afterwards the limits are checked.  Operations on branches are
carried out in any case.  A script ends well when no branch is left open.
-/

variable (vm : Interpreter)

/-- Open a branch.  A branch inside one that is not taken is not taken either, and needs no
condition. -/
def openBranch (negated executing : Bool) : Step Unit := do
  let taken <-
    if executing then do
      match <- Step.stack with
      | condition :: rest =>
        Step.setStack rest
        pure (ScriptNumber.isTrue condition != negated)
      | [] => throw .unbalancedConditional
    else pure false
  modify fun machine => { machine with branches := taken :: machine.branches }
  if vm.isMetered && decide ((<- get).branches.length > vm.limits.maxConditionalDepth.toNat) then
    throw .conditionalStackDepth

def elseBranch : Step Unit := do
  match (<- get).branches with
  | taken :: rest => modify fun machine => { machine with branches := (!taken) :: rest }
  | [] => throw .unbalancedConditional

def closeBranch : Step Unit := do
  match (<- get).branches with
  | _ :: rest => modify fun machine => { machine with branches := rest }
  | [] => throw .unbalancedConditional

def perform (operation : Operation) (executing : Bool) (next : Nat) : Step Unit :=
  match operation with
  | .pushNumber value => vm.pushNumber value
  | .noOperation => pure ()
  | .upgradableNoOperation => vm.reservedForUpgrade
  | .openBranch negated => vm.openBranch negated executing
  | .elseBranch => elseBranch
  | .closeBranch => closeBranch
  | .verify => Step.verifyTop .verify
  | .halt => throw .opReturn
  | .stack operation => vm.rearrangeStacks operation
  | .splice operation => vm.splice operation
  | .bitwise operation => vm.bitwise operation
  | .equal required => vm.equal required
  | .unary operation => vm.unary operation
  | .binary operation => vm.binary operation
  | .numEqualVerify => vm.numEqualVerify
  | .within => vm.within
  | .hash algorithm => vm.hash algorithm
  | .codeSeparator => modify fun machine => { machine with codeStart := next }
  | .checkSig required => vm.checkSig required
  | .checkMultiSig required => vm.checkMultiSig required
  | .checkDataSig required => vm.checkDataSig required
  | .checkLockTime => vm.checkLockTime
  | .checkSequence => vm.checkSequence
  | .introspect question => vm.introspect question
  | .introspectToken side part => vm.introspectToken side part
  | .pushData | .reservedBranch | .disabled | .invalid => throw .badOpcode

/-- The opcode fails the script wherever it stands.  Multiplication does so unless numbers
are wide enough. -/
def isDisabled (opcode : UInt8) : Bool :=
  Opcode.isDisabled opcode ||
    (Opcode.operation opcode == .binary .mul && !vm.enables .integers64 && !vm.isMetered)

/-- Count an operation.  Only metered work has no bound on their number. -/
def countOperation : Step Unit := do
  modify fun machine => { machine with opCount := machine.opCount + 1 }
  if !vm.isMetered && decide ((<- get).opCount > vm.limits.maxOps.toNat) then throw .opCount

/-- What is demanded of an instruction in every branch. -/
def permit (instruction : Instruction) : Step Unit := do
  if (instruction.data.getD []).length > vm.maxElementSize then throw .pushSize
  vm.charge 100
  if !Opcode.isPush instruction.opcode then vm.countOperation
  if vm.isDisabled instruction.opcode then throw .disabledOpcode

def pushInstructionData (instruction : Instruction) : Step Unit := do
  if vm.enables .minimalData && !instruction.isMinimalPush then throw .minimalData
  vm.push (instruction.data.getD [])

/-- Carry out an instruction if all open branches are taken, or if it concerns branches. -/
def carryOut (instruction : Instruction) (next : Nat) : Step Unit := do
  let executing := (<- get).isExecuting
  let operation := Opcode.operation instruction.opcode
  if executing && operation == .pushData then vm.pushInstructionData instruction
  else if executing || operation.concernsBranches then vm.perform operation executing next

/-- What is demanded of the machine after each instruction. -/
def checkLimits : Step Unit := do
  let machine <- get
  if machine.stack.length + machine.altStack.length > vm.limits.maxStackSize.toNat then
    throw .stackSize
  if vm.isMetered && decide (machine.metrics.opCost > vm.opCostBudget) then throw .opCost

/-- Run one instruction.  The next one starts at the given offset. -/
def step (instruction : Instruction) (next : Nat) : Step Unit := do
  vm.permit instruction
  vm.carryOut instruction next
  vm.checkLimits

/-- Run instructions one after another, the first of which starts at the given offset. -/
def runFrom (start : Nat) : List Instruction -> Step Unit
  | [] => pure ()
  | instruction :: rest => do
    let next := start + instruction.size
    vm.step instruction next
    runFrom next rest

/-- What is demanded at the end of a script: no cut-off instruction and no open branch. -/
def finish (tail : Bytes) : Step Unit := do
  if !tail.isEmpty then throw .badOpcode
  if !(<- get).branches.isEmpty then throw .unbalancedConditional

def run (script : Script) : Step Unit := do
  let layout := script.layout
  vm.runFrom 0 layout.instructions
  finish layout.tail

def evaluate (script : Script) : EStateM ScriptError Session Unit := fun session =>
  if script.bytes.length > vm.limits.maxScriptSize.toNat then .error .scriptSize session
  else
    match vm.run script { toSession := session, script := script } with
    | .ok _ machine => .ok () machine.toSession
    | .error failure machine => .error failure machine.toSession

end Interpreter
end SpendRules

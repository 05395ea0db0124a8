import SpendRules.Configuration
import SpendRules.Script.Builder
import SpendRules.Script.Filter
import SpendRules.Signature.Verifier
import SpendRules.SpendingContext

namespace SpendRules

/-!
# The stack machine

An interpreter is everything that stays fixed while scripts run: rules, limits, the chain,
hash functions, a verifier and, when there is one, the context of the spending.  A session is
what the scripts of one spending hand on to each other: the main stack, the work done so far,
and the questions put to the verifier.  A machine is a session with what belongs to one script
only.

Steps of a machine live in `EStateM`, so a step that fails still says in which state.  Nothing
goes on from there, but the questions put to the verifier on the way are not lost.  Stacks are
lists with the top element in front.
-/

/-- The work done for one spending.  The counters are natural numbers.  As long as work is
metered, a verification that succeeds never counts beyond machine words: a charge that is no
word, such as the product of two lengths of 4 GiB, is above the budget and fails the script. -/
structure Metrics where
  /-- Signature checks, as the density limit counts them. -/
  sigChecks : Nat := 0
  /-- The cost of all operations; charged only when work is metered. -/
  opCost : Nat := 0
  /-- The blocks that were hashed. -/
  hashIterations : Nat := 0
  deriving DecidableEq, Repr

structure VerifierCall where
  query : SignatureQuery
  answer : Except CryptoError Bool

/-- What the scripts of one spending hand on to each other. -/
structure Session where
  stack : List Bytes := []
  metrics : Metrics := {}
  /-- The calls of the verifier, the last one in front. -/
  calls : List VerifierCall := []

structure Machine extends Session where
  script : Script
  altStack : List Bytes := []
  /-- For each open branch, the innermost in front, whether it is taken. -/
  branches : List Bool := []
  /-- The number of counted operations. -/
  opCount : Nat := 0
  /-- The offset after the last code separator that was executed. -/
  codeStart : Nat := 0

abbrev Step (α : Type) := EStateM ScriptError Machine α

/-- What stays fixed while scripts run. -/
structure Interpreter where
  rules : RuleSet
  limits : Limits := {}
  forkId : UInt32 := 0
  /-- What the hash functions that scripts ask for compute. -/
  hashes : Hash.Algorithm -> Bytes -> Bytes := Hash.Algorithm.apply
  verifier : SignatureVerifier
  context : Option SpendingContext := none

namespace Machine

/-- The script from the last executed code separator on. -/
def scriptCode (machine : Machine) : Script :=
  { bytes := machine.script.bytes.drop machine.codeStart }

def isExecuting (machine : Machine) : Bool :=
  machine.branches.all id

end Machine

namespace Step

/-- Go on with the value of a computation, or fail with its error. -/
def ofExcept {α : Type} : Except ScriptError α -> Step α
  | .ok value => pure value
  | .error failure => throw failure

def stack : Step (List Bytes) := do
  return (<- get).stack

def setStack (stack : List Bytes) : Step Unit :=
  modify fun machine => { machine with stack := stack }

def modifyMetrics (change : Metrics -> Metrics) : Step Unit :=
  modify fun machine => { machine with metrics := change machine.metrics }

def pop : Step Bytes := do
  match <- stack with
  | top :: rest =>
    setStack rest
    return top
  | [] => throw .invalidStackOperation

def require (count : Nat) : Step Unit := do
  if (<- stack).length < count then throw .invalidStackOperation

/-- The element with the given number of elements above it. -/
def elementAt (index : Nat) : Step Bytes := do
  match (<- stack)[index]? with
  | some element => return element
  | none => throw .invalidStackOperation

/-- Rearrange the main stack, unless it holds too little. -/
def rearrange (change : List Bytes -> Option (List Bytes)) : Step Unit := do
  match change (<- stack) with
  | some stack => setStack stack
  | none => throw .invalidStackOperation

/-- Demand that the top element is true, and remove it. -/
def verifyTop (failure : ScriptError) : Step Unit := do
  if ScriptNumber.isTrue (<- elementAt 0) then
    let _ <- pop
  else throw failure

/-- Demand that the result on top is true and remove it, when the operation says so. -/
def verifyTopIf (required : Bool) (failure : ScriptError) : Step Unit :=
  if required then verifyTop failure else pure ()

end Step

namespace Interpreter

variable (vm : Interpreter)

def enables (rule : Rule) : Bool :=
  vm.rules.enables rule

def isMetered : Bool :=
  vm.enables .may2025

/-- The length of the unlocking script of the context; zero without context. -/
def unlockingLength : Nat :=
  match vm.context with
  | some context => context.input.script.bytes.length
  | none => 0

/-- The cost that operations may have in total. -/
def opCostBudget : Nat :=
  (41 + vm.unlockingLength) * 800

/-- The number of blocks that may be hashed in total. -/
def hashIterationLimit : Nat :=
  (41 + vm.unlockingLength) * 7 / 2

def maxElementSize : Nat :=
  if vm.isMetered then vm.limits.may2025MaxElementSize.toNat else vm.limits.maxElementSize.toNat

/-- How long numbers may be. -/
def numberBounds : ScriptNumber.Bounds :=
  if vm.isMetered then
    { operandSize := vm.limits.may2025MaxElementSize.toNat
      resultSize := some vm.limits.may2025MaxElementSize.toNat }
  else if vm.enables .integers64 then { operandSize := 8, resultSize := some 8 }
  else { operandSize := 4, resultSize := none }

def charge (cost : Nat) : Step Unit :=
  if vm.isMetered then Step.modifyMetrics fun metrics =>
    { metrics with opCost := metrics.opCost + cost }
  else pure ()

/-- Push an element, at the cost of its length. -/
def push (element : Bytes) : Step Unit := do
  vm.charge element.length
  modify fun machine => { machine with stack := element :: machine.stack }

def pushAll : List Bytes -> Step Unit
  | [] => pure ()
  | element :: elements => do
    vm.push element
    pushAll elements

/-- Push an element whose size nothing has bounded yet. -/
def pushBounded (element : Bytes) : Step Unit := do
  if element.length > vm.maxElementSize then throw .pushSize
  vm.push element

/-- Push a number that has not outgrown its bound. -/
def pushNumber (number : Int) : Step Unit := do
  let number <- Step.ofExcept (ScriptNumber.checkResult vm.numberBounds.resultSize number)
  vm.push (ScriptNumber.encode number)

def pushBool (condition : Bool) : Step Unit :=
  vm.push (if condition then [1] else [])

/-- The number of an element that is an operand. -/
def operand (element : Bytes) : Step Int :=
  Step.ofExcept (ScriptNumber.decode element (vm.enables .minimalData) vm.numberBounds.operandSize)

def popNumber : Step Int := do
  vm.operand (<- Step.pop)

/-- Remove the top element as a count, an index or a size: numbers beyond a machine word are
brought into it. -/
def popIndex : Step Int := do
  return ScriptNumber.clamp (<- vm.popNumber)

def demandContext : Step SpendingContext :=
  match vm.context with
  | some context => pure context
  | none => throw .contextUnavailable

/-- Account for hashing a message of the given length, with one more block when the result
is hashed again. -/
def chargeHash (messageLength : Nat) (twofold : Bool) : Step Unit := do
  let iterations := Hash.digestIterations messageLength + (if twofold then 1 else 0)
  Step.modifyMetrics fun metrics =>
    { metrics with hashIterations := metrics.hashIterations + iterations }
  vm.charge (iterations * 64)
  if vm.isMetered && decide ((<- get).metrics.hashIterations > vm.hashIterationLimit) then
    throw .hashIterations

def countSigChecks (count : Nat) : Step Unit := do
  Step.modifyMetrics fun metrics => { metrics with sigChecks := metrics.sigChecks + count }
  vm.charge (count * 26000)

/-- An operation that is reserved for upgrades does nothing, unless such operations are
discouraged. -/
def reservedForUpgrade : Step Unit :=
  if vm.enables .discourageUpgradableNops then throw .discourageUpgradableNops else pure ()

end Interpreter

end SpendRules

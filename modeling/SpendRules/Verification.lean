import SpendRules.Machine.Evaluation
import SpendRules.Script.Template

namespace SpendRules

/-!
# Verifying the spending of an output

The unlocking script runs on an empty stack, the locking script on what it leaves, and the
top element has to be true in the end.  When the locking script commits to the hash of
another script, the last element that the unlocking script pushed is that script, and it
runs on the elements below.
-/

structure Outcome where
  result : Except ScriptError Metrics
  calls : List VerifierCall

namespace Interpreter

variable (vm : Interpreter)

def demandTrue : EStateM ScriptError Session Unit := do
  match (<- get).stack with
  | top :: _ => if ScriptNumber.isTrue top then pure () else throw .evalFalse
  | [] => throw .evalFalse

/-- The locking script commits to another script, in a way that the rules know. -/
def commitsToScript (scriptPubkey : Script) : Bool :=
  vm.enables .payToScriptHash &&
    (scriptPubkey.isPayToScriptHash ||
      (vm.enables .payToScriptHash32 && scriptPubkey.isPayToScriptHash32))

/-- The stack is a lone witness program, and such programs are exempt from running. -/
def isRecovery (stack : List Bytes) : Bool :=
  !vm.enables .disallowSegwitRecovery &&
    match stack with
    | [program] => Script.isWitnessProgram { bytes := program }
    | _ => false

/-- Run the script on top of the stack, on the elements below it.  A script that is reached
from more than one other script is refused. -/
def evaluateRedeemScript (depth : Nat) : EStateM ScriptError Session Unit := do
  if depth > 1 then throw .p2shRecursion
  match (<- get).stack with
  | serialized :: rest =>
    modify fun session => { session with stack := rest }
    vm.evaluate { bytes := serialized }
    demandTrue
  | [] => throw .invalidStackOperation

/-- What is demanded of the stack and the work done when all scripts have run. -/
def demandCleanEnd (scriptSig : Script) : EStateM ScriptError Session Unit := do
  let session <- get
  if vm.enables .cleanStack && session.stack.length != 1 then throw .cleanStack
  if vm.enables .inputSigChecks &&
    decide (session.metrics.sigChecks * 43 > scriptSig.bytes.length + 60) then
    throw .inputSigChecks

/-- Verify an unlocking script against a locking script, with a step that runs the script on
top of the stack. -/
def verifyScriptWith (redeem : EStateM ScriptError Session Unit) (scriptSig scriptPubkey : Script) :
    EStateM ScriptError Session Unit := do
  if vm.enables .sigPushOnly && !scriptSig.isPushOnly then throw .sigPushOnly
  vm.evaluate scriptSig
  let unlocked := (<- get).stack
  vm.evaluate scriptPubkey
  demandTrue
  if vm.commitsToScript scriptPubkey then
    if !scriptSig.isPushOnly then throw .sigPushOnly
    modify fun session => { session with stack := unlocked }
    if vm.isRecovery unlocked then return
    redeem
  vm.demandCleanEnd scriptSig

def verifyScript (scriptSig scriptPubkey : Script) : EStateM ScriptError Session Unit :=
  vm.verifyScriptWith (vm.evaluateRedeemScript 1) scriptSig scriptPubkey

/-- Verify an unlocking script against a locking script, from an empty session. -/
def verify (scriptSig scriptPubkey : Script) : Outcome :=
  match vm.verifyScript scriptSig scriptPubkey {} with
  | .ok _ session => { result := .ok session.metrics, calls := session.calls.reverse }
  | .error failure session => { result := .error failure, calls := session.calls.reverse }

end Interpreter

/-- The interpreter for public flags under a configuration. -/
def Configuration.interpreter (configuration : Configuration) (flags : UInt32)
    (verifier : SignatureVerifier) (context : Option SpendingContext) : Interpreter where
  rules := configuration.activeRules flags
  limits := configuration.limits
  forkId := configuration.forkId
  verifier := verifier
  context := context

def verifySpending (configuration : Configuration) (verifier : SignatureVerifier) (tx : Transaction)
    (index : Nat) (spent : SpentOutputs) (flags : UInt32) : Outcome :=
  match SpendingContext.of tx index spent with
  | .error failure => { result := .error failure, calls := [] }
  | .ok context =>
    (configuration.interpreter flags verifier (some context)).verify context.input.script
      context.spent.script

end SpendRules

import SpendRules.Verification.Verdict

namespace SpendRules

/-!
# Engines

An engine is a configuration that obeys its rules, with a verifier.
-/

structure Engine where
  configuration : Configuration
  valid : configuration.validate = .ok ()
  verifier : SignatureVerifier

namespace Engine

def create (configuration : Configuration) (verifier : SignatureVerifier) :
    Except ConfigurationFault Engine :=
  match valid : configuration.validate with
  | .ok () => .ok { configuration := configuration, valid := valid, verifier := verifier }
  | .error fault => .error fault

/-- The engine of the default configuration, with the verifier that computes on the curve. -/
def default : Engine where
  configuration := {}
  valid := rfl
  verifier := Secp256k1.verifier

variable (engine : Engine)

/-- Verify the spending of one input, and keep the precise error and the work done. -/
def verifySpending (tx : Transaction) (index : Nat) (spent : SpentOutputs) (flags : UInt32) :
    Outcome :=
  SpendRules.verifySpending engine.configuration engine.verifier tx index spent flags

def verifyInput (tx : Transaction) (index : Nat) (spent : SpentOutputs) (flags : UInt32) :
    Verdict :=
  SpendRules.verifyInput engine.configuration engine.verifier tx index spent flags

/-- Decode a transaction strictly and verify the spending of one input. -/
def verifyInputBytes (bytes : Bytes) (index : Nat) (spent : Output) (flags : UInt32) : Verdict :=
  SpendRules.verifyInputBytes engine.configuration engine.verifier bytes index spent flags

def verifyAllInputs (tx : Transaction) (spent : List Output) (flags : UInt32) :
    Except (Nat × Verdict) Unit :=
  SpendRules.verifyAllInputs engine.configuration engine.verifier tx spent flags

/-- The stack that a script leaves, run without context on an empty stack. -/
def evaluate (script : Script) (flags : UInt32) : Except ScriptError (List Bytes) :=
  match (engine.configuration.interpreter flags engine.verifier none).evaluate script {} with
  | .ok _ session => .ok session.stack
  | .error failure _ => .error failure

end Engine

/-- The stack that a script leaves under the default limits, run without context on an empty
stack. -/
def evaluateScript (script : Script) (rules : RuleSet) : Except ScriptError (List Bytes) :=
  match Interpreter.evaluate { rules := rules, verifier := Secp256k1.verifier } script {} with
  | .ok _ session => .ok session.stack
  | .error failure _ => .error failure

end SpendRules

import SpendRules.Verification

namespace SpendRules

/-!
# Verdicts

A verdict is the stable public outcome of verifying one input.  Verdicts have a name and a
number; several causes of failure share one verdict.
-/

inductive Verdict where
  | success
  | txInvalid
  | txInputIndex
  | spentOutputsMismatch
  | evalFalse
  | opReturn
  | scriptSize
  | pushSize
  | opCount
  | stackSize
  | sigCount
  | pubkeyCount
  | vmLimits
  | verify
  | equalVerify
  | checkMultiSigVerify
  | checkSigVerify
  | numEqualVerify
  | badOpcode
  | disabledOpcode
  | invalidStackOperation
  | invalidAltstackOperation
  | unbalancedConditional
  | invalidNumber
  | invalidOperand
  | negativeLocktime
  | unsatisfiedLocktime
  | sigHashType
  | sigDer
  | minimalData
  | sigPushOnly
  | sigHighS
  | pubkeyType
  | cleanStack
  | sigNullFail
  | sigEncoding
  | forkId
  | discourageUpgradableNops
  | sigChecks
  | introspection
  | tokenEncoding
  | p2shRecursion
  deriving DecidableEq, Repr

namespace Verdict

/-- The verdicts with their names, in the order of their numbers. -/
def table : List (Verdict × String) :=
  [(.success, "Ok"),
    (.txInvalid, "TxInvalid"),
    (.txInputIndex, "TxInputIndex"),
    (.spentOutputsMismatch, "SpentOutputsMismatch"),
    (.evalFalse, "EvalFalse"),
    (.opReturn, "OpReturn"),
    (.scriptSize, "ScriptSize"),
    (.pushSize, "PushSize"),
    (.opCount, "OpCount"),
    (.stackSize, "StackSize"),
    (.sigCount, "SigCount"),
    (.pubkeyCount, "PubkeyCount"),
    (.vmLimits, "VmLimits"),
    (.verify, "Verify"),
    (.equalVerify, "EqualVerify"),
    (.checkMultiSigVerify, "CheckMultiSigVerify"),
    (.checkSigVerify, "CheckSigVerify"),
    (.numEqualVerify, "NumEqualVerify"),
    (.badOpcode, "BadOpcode"),
    (.disabledOpcode, "DisabledOpcode"),
    (.invalidStackOperation, "InvalidStackOperation"),
    (.invalidAltstackOperation, "InvalidAltstackOperation"),
    (.unbalancedConditional, "UnbalancedConditional"),
    (.invalidNumber, "InvalidNumber"),
    (.invalidOperand, "InvalidOperand"),
    (.negativeLocktime, "NegativeLocktime"),
    (.unsatisfiedLocktime, "UnsatisfiedLocktime"),
    (.sigHashType, "SigHashType"),
    (.sigDer, "SigDer"),
    (.minimalData, "MinimalData"),
    (.sigPushOnly, "SigPushOnly"),
    (.sigHighS, "SigHighS"),
    (.pubkeyType, "PubkeyType"),
    (.cleanStack, "CleanStack"),
    (.sigNullFail, "SigNullFail"),
    (.sigEncoding, "SigEncoding"),
    (.forkId, "ForkId"),
    (.discourageUpgradableNops, "DiscourageUpgradableNops"),
    (.sigChecks, "SigChecks"),
    (.introspection, "Introspection"),
    (.tokenEncoding, "TokenEncoding"),
    (.p2shRecursion, "P2shRecursion")]

def code (verdict : Verdict) : Nat :=
  table.findIdx fun row => row.1 == verdict

def name (verdict : Verdict) : String :=
  ((table.lookup verdict).getD "")

/-- A verdict as it is shown: its name and its number. -/
def display (verdict : Verdict) : String :=
  verdict.name ++ " (" ++ toString verdict.code ++ ")"

def isSuccess (verdict : Verdict) : Bool :=
  verdict == .success

def ofError : ScriptError -> Verdict
  | .exhausted => .txInvalid
  | .tokenEncodingInvalid => .tokenEncoding
  | .evalFalse => .evalFalse
  | .opReturn => .opReturn
  | .scriptSize => .scriptSize
  | .pushSize => .pushSize
  | .opCount => .opCount
  | .stackSize => .stackSize
  | .sigCount => .sigCount
  | .pubkeyCount => .pubkeyCount
  | .conditionalStackDepth | .opCost | .hashIterations => .vmLimits
  | .verify => .verify
  | .equalVerify => .equalVerify
  | .checkMultiSigVerify => .checkMultiSigVerify
  | .checkSigVerify | .checkDataSigVerify => .checkSigVerify
  | .numEqualVerify => .numEqualVerify
  | .badOpcode => .badOpcode
  | .disabledOpcode => .disabledOpcode
  | .invalidStackOperation => .invalidStackOperation
  | .invalidAltstackOperation => .invalidAltstackOperation
  | .unbalancedConditional => .unbalancedConditional
  | .invalidNumberRange | .minimalNumber | .impossibleEncoding | .divByZero | .modByZero =>
      .invalidNumber
  | .invalidOperandSize | .invalidSplitRange | .invalidBitfieldSize | .invalidBitRange
  | .invalidBitCount => .invalidOperand
  | .negativeLocktime => .negativeLocktime
  | .unsatisfiedLocktime => .unsatisfiedLocktime
  | .sigHashType => .sigHashType
  | .sigDer => .sigDer
  | .minimalData => .minimalData
  | .sigPushOnly => .sigPushOnly
  | .sigHighS => .sigHighS
  | .pubkeyType => .pubkeyType
  | .cleanStack => .cleanStack
  | .sigNullFail => .sigNullFail
  | .sigBadLength | .sigNonSchnorr => .sigEncoding
  | .mustUseForkId | .illegalForkId => .forkId
  | .discourageUpgradableNops => .discourageUpgradableNops
  | .inputSigChecks => .sigChecks
  | .invalidTxInputIndex | .invalidTxOutputIndex | .contextUnavailable => .introspection
  | .p2shRecursion => .p2shRecursion

def ofOutcome (outcome : Outcome) : Verdict :=
  match outcome.result with
  | .ok _ => .success
  | .error failure => ofError failure

end Verdict

/-- Verify the spending of one input.  A wrong index and a wrong number of spent outputs
have verdicts of their own; the index is checked first. -/
def verifyInput (configuration : Configuration) (verifier : SignatureVerifier) (tx : Transaction)
    (index : Nat) (spent : SpentOutputs) (flags : UInt32) : Verdict :=
  if index ≥ tx.inputs.length then .txInputIndex
  else
    match spent with
    | .all outputs =>
      if outputs.length ≠ tx.inputs.length then .spentOutputsMismatch
      else .ofOutcome (verifySpending configuration verifier tx index (.all outputs) flags)
    | .single output =>
        .ofOutcome (verifySpending configuration verifier tx index (.single output) flags)

def verifyInputBytes (configuration : Configuration) (verifier : SignatureVerifier) (bytes : Bytes)
    (index : Nat) (spent : Output) (flags : UInt32) : Verdict :=
  match Transaction.format.decode bytes true with
  | .ok tx => verifyInput configuration verifier tx index (.single spent) flags
  | .error _ => .txInvalid

/-- Verify the spending of all inputs.  The first failure is reported with its index. -/
def verifyAllInputs (configuration : Configuration) (verifier : SignatureVerifier)
    (tx : Transaction) (spent : List Output) (flags : UInt32) : Except (Nat × Verdict) Unit :=
  (List.range tx.inputs.length).forM fun index =>
    let verdict := verifyInput configuration verifier tx index (.all spent) flags
    if verdict.isSuccess then .ok () else .error (index, verdict)

end SpendRules

namespace SpendRules

/-!
# Rules

A rule is one condition or ability that a caller can ask for.  Callers name rules by the
bits of a stable public mask.  Inside, a set of rules is a mask with numbers of its own, and
sets are made from public masks only.  Public bits that name no rule are ignored.
-/

inductive Rule where
  /-- Run the script that a locking script commits to by hash. -/
  | payToScriptHash
  /-- Admit only defined signature hash types and canonical keys. -/
  | strictEncoding
  /-- Admit only canonical signatures. -/
  | strictDer
  /-- Admit only the lower of the two values that a signature can have. -/
  | lowS
  /-- Failed signature checks require empty signatures. -/
  | nullFail
  /-- Unlocking scripts may only push. -/
  | sigPushOnly
  /-- Pushes and numbers have their shortest form. -/
  | minimalData
  /-- Operations reserved for upgrades fail. -/
  | discourageUpgradableNops
  /-- Exactly one element remains. -/
  | cleanStack
  /-- Absolute lock times are checked. -/
  | checkLockTime
  /-- Relative lock times are checked. -/
  | checkSequence
  /-- Signatures commit to the chain and to the spent value. -/
  | forkId
  /-- Lone witness programs get no exemption. -/
  | disallowSegwitRecovery
  /-- A bitfield selects the keys of a multiple signature. -/
  | schnorrMultisig
  /-- Signature checks are bounded by the length of the unlocking script. -/
  | inputSigChecks
  /-- Signature checks are enforced for whole blocks; nothing depends on it within one input. -/
  | enforceSigChecks
  /-- Numbers have up to eight bytes. -/
  | integers64
  /-- Scripts can ask about the transaction. -/
  | nativeIntrospection
  /-- Locking scripts can commit by a hash of thirty-two bytes. -/
  | payToScriptHash32
  /-- Outputs can carry tokens. -/
  | tokens
  /-- Work is metered, and numbers are bounded by the element size only. -/
  | may2025
  deriving DecidableEq, Repr

namespace Rule

/-- The rules in the order of their inner numbers. -/
def all : List Rule :=
  [.payToScriptHash, .strictEncoding, .strictDer, .lowS, .nullFail, .sigPushOnly, .minimalData,
    .discourageUpgradableNops, .cleanStack, .checkLockTime, .checkSequence, .forkId,
    .disallowSegwitRecovery, .schnorrMultisig, .inputSigChecks, .enforceSigChecks, .integers64,
    .nativeIntrospection, .payToScriptHash32, .tokens, .may2025]

/-- The number of a rule inside a set. -/
def innerBit : Rule -> UInt32
  | .payToScriptHash => 0
  | .strictEncoding => 1
  | .strictDer => 2
  | .lowS => 3
  | .nullFail => 4
  | .sigPushOnly => 5
  | .minimalData => 6
  | .discourageUpgradableNops => 7
  | .cleanStack => 8
  | .checkLockTime => 9
  | .checkSequence => 10
  | .forkId => 11
  | .disallowSegwitRecovery => 12
  | .schnorrMultisig => 13
  | .inputSigChecks => 14
  | .enforceSigChecks => 15
  | .integers64 => 16
  | .nativeIntrospection => 17
  | .payToScriptHash32 => 18
  | .tokens => 19
  | .may2025 => 20

/-- The number of a rule in public masks. -/
def publicBit : Rule -> UInt32
  | .payToScriptHash => 0
  | .strictEncoding => 1
  | .strictDer => 2
  | .lowS => 3
  | .nullFail => 14
  | .sigPushOnly => 5
  | .minimalData => 6
  | .discourageUpgradableNops => 7
  | .cleanStack => 8
  | .checkLockTime => 9
  | .checkSequence => 10
  | .forkId => 16
  | .disallowSegwitRecovery => 20
  | .schnorrMultisig => 21
  | .inputSigChecks => 22
  | .enforceSigChecks => 23
  | .integers64 => 24
  | .nativeIntrospection => 25
  | .payToScriptHash32 => 26
  | .tokens => 27
  | .may2025 => 28

def innerMask (rule : Rule) : UInt32 := 1 <<< rule.innerBit

def publicMask (rule : Rule) : UInt32 := 1 <<< rule.publicBit

def allPublic : UInt32 :=
  all.foldl (fun mask rule => mask ||| rule.publicMask) 0

end Rule

structure RuleSet where
  bits : UInt32
  deriving DecidableEq, Repr

namespace RuleSet

/-- The inner mask of the rules that a public mask names. -/
def innerBits (flags : UInt32) : UInt32 :=
  Rule.all.foldl (fun mask rule =>
    if flags &&& rule.publicMask != 0 then mask ||| rule.innerMask else mask) 0

def empty : RuleSet := { bits := 0 }

def ofFlags (flags : UInt32) : RuleSet := { bits := innerBits flags }

/-- The rules that a public mask names, but for those that are not enabled. -/
def ofEnabledFlags (flags enabled : UInt32) : RuleSet := ofFlags (flags &&& enabled)

def union (left right : RuleSet) : RuleSet := { bits := left.bits ||| right.bits }

def enables (rules : RuleSet) (rule : Rule) : Bool :=
  rules.bits &&& rule.innerMask == rule.innerMask

/-- The public mask names some rule, and the set holds all that it names. -/
def has (rules : RuleSet) (flags : UInt32) : Bool :=
  let wanted := innerBits flags
  wanted != 0 && rules.bits &&& wanted == wanted

def isEmpty (rules : RuleSet) : Bool :=
  rules.bits == 0

end RuleSet

end SpendRules

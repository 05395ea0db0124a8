import SpendRules.Machine

namespace SpendRules
namespace Interpreter

/-!
# Lock times

Two operations compare the top element with a time of the transaction and leave the stack as
it is.  Absolute times are heights of blocks or seconds; relative times are too, and a bit
says which.  Times of different kinds never satisfy each other.
-/

variable (vm : Interpreter)

/-- Absolute times below it are heights of blocks, from it on seconds. -/
def lockTimeThreshold : Nat := 500000000

/-- The sequence number of an input that ignores the lock time of its transaction. -/
def finalSequence : UInt32 := 0xffffffff

/-- The flag that switches a relative time off. -/
def sequenceDisabledFlag : Nat := 0x80000000

/-- The flag that says that a relative time counts units of seconds. -/
def sequenceTypeFlag : Nat := 0x400000

def sequenceAmountMask : Nat := 0xffff

def lockTimeOperandSize : Nat := 5

/-- The time that the top element names. -/
def lockTimeOperand : Step Nat := do
  let element <- Step.elementAt 0
  let time <- Step.ofExcept
    (ScriptNumber.decode element (vm.enables .minimalData) lockTimeOperandSize)
  if time < 0 then throw .negativeLocktime
  return time.toNat

/-- The lock time of the transaction is of the same kind as a time and has reached it, and
the input heeds it. -/
def reachesLockTime (context : SpendingContext) (time : Nat) : Bool :=
  let lockTime := context.tx.lockTime.toNat
  (decide (lockTime < lockTimeThreshold) == decide (time < lockTimeThreshold)) &&
    decide (time ≤ lockTime) &&
    context.input.sequence != finalSequence

def isDisabledSequence (sequence : Nat) : Bool :=
  sequence &&& sequenceDisabledFlag != 0

/-- The kind of a relative time and its amount, as one number. -/
def relativeTime (sequence : Nat) : Nat :=
  sequence &&& (sequenceTypeFlag ||| sequenceAmountMask)

/-- The sequence number of the input is a relative time of the same kind as a time and has
reached it.  Of times of one kind, kind and amount are compared together. -/
def reachesSequence (context : SpendingContext) (time : Nat) : Bool :=
  let own := relativeTime context.input.sequence.toNat
  let demanded := relativeTime time
  decide (2 ≤ context.tx.version) && !isDisabledSequence context.input.sequence.toNat &&
    (decide (own < sequenceTypeFlag) == decide (demanded < sequenceTypeFlag)) &&
      decide (demanded ≤ own)

/-- Demand that the lock time of the transaction has reached the top element. -/
def checkLockTime : Step Unit := do
  if vm.enables .checkLockTime then
    let time <- vm.lockTimeOperand
    let context <- vm.demandContext
    if !reachesLockTime context time then throw .unsatisfiedLocktime
  else vm.reservedForUpgrade

/-- Demand that the relative time of the input has reached the top element, unless that one
is switched off. -/
def checkSequence : Step Unit := do
  if vm.enables .checkSequence then
    let time <- vm.lockTimeOperand
    if !isDisabledSequence time then
      let context <- vm.demandContext
      if !reachesSequence context time then throw .unsatisfiedLocktime
  else vm.reservedForUpgrade

end Interpreter
end SpendRules

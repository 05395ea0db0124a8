import SpendRules.Machine

namespace SpendRules
namespace Interpreter

/-!
# Arithmetic

Operations on numbers.  Results are exact integers; one that outgrows the bound of the rules
is a failure, and so is a division by zero.
-/

variable (vm : Interpreter)

def unaryResult : UnaryOperation -> Int -> Int
  | .addOne, number => number + 1
  | .subOne, number => number - 1
  | .negate, number => -number
  | .absolute, number => number.natAbs
  | .isZero, number => ScriptNumber.ofBool (number == 0)
  | .isNonzero, number => ScriptNumber.ofBool (number != 0)

def binaryResult (operation : BinaryOperation) (a b : Int) : Except ScriptError Int :=
  match operation with
  | .add => .ok (a + b)
  | .sub => .ok (a - b)
  | .mul => .ok (a * b)
  | .div => (ScriptNumber.quotient? a b).elim (.error .divByZero) .ok
  | .rem => (ScriptNumber.remainder? a b).elim (.error .modByZero) .ok
  | .boolAnd => .ok (ScriptNumber.ofBool (a != 0 && b != 0))
  | .boolOr => .ok (ScriptNumber.ofBool (a != 0 || b != 0))
  | .numEqual => .ok (ScriptNumber.ofBool (a == b))
  | .numNotEqual => .ok (ScriptNumber.ofBool (a != b))
  | .lessThan => .ok (ScriptNumber.ofBool (decide (a < b)))
  | .greaterThan => .ok (ScriptNumber.ofBool (decide (a > b)))
  | .lessOrEqual => .ok (ScriptNumber.ofBool (decide (a ≤ b)))
  | .greaterOrEqual => .ok (ScriptNumber.ofBool (decide (a ≥ b)))
  | .min => .ok (min a b)
  | .max => .ok (max a b)

/-- The operation takes time that grows with the product of the lengths of its operands. -/
def isQuadratic : BinaryOperation -> Bool
  | .mul | .div | .rem => true
  | _ => false

def unary (operation : UnaryOperation) : Step Unit := do
  let number <- vm.popNumber
  vm.pushNumber (unaryResult operation number)

def binary (operation : BinaryOperation) : Step Unit := do
  Step.require 2
  if isQuadratic operation then
    vm.charge ((<- Step.elementAt 0).length * (<- Step.elementAt 1).length)
  let b <- vm.popNumber
  let a <- vm.popNumber
  let result <- Step.ofExcept (binaryResult operation a b)
  vm.pushNumber result

/-- Demand that the two top numbers are equal, and remove them. -/
def numEqualVerify : Step Unit := do
  vm.binary .numEqual
  Step.verifyTop .numEqualVerify

/-- Replace a number and two bounds by whether it is at least the lower and below the upper one. -/
def within : Step Unit := do
  Step.require 3
  let upper <- vm.popNumber
  let lower <- vm.popNumber
  let number <- vm.popNumber
  vm.pushBool (decide (lower ≤ number) && decide (number < upper))

end Interpreter
end SpendRules

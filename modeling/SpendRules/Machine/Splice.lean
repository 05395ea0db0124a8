import SpendRules.Machine

namespace SpendRules
namespace Interpreter

/-!
# Operations on the bytes of elements

Joining, cutting, reversing and converting elements, comparing them, and combining them bit by bit.
-/

variable (vm : Interpreter)

/-- Cut an element in two at the position that the top element names. -/
def split : Step Unit := do
  Step.require 2
  let position <- vm.popIndex
  let element <- Step.pop
  if position < 0 ∨ position > element.length then throw .invalidSplitRange
  vm.push (element.take position.toNat)
  vm.push (element.drop position.toNat)

/-- Write the number of an element with exactly as many bytes as the top element names. -/
def numToBin : Step Unit := do
  Step.require 2
  let size <- vm.popIndex
  if size < 0 ∨ size > vm.maxElementSize then throw .pushSize
  let element := ScriptNumber.minimize (<- Step.pop)
  if element.length > size.toNat then throw .impossibleEncoding
  vm.push (ScriptNumber.widen element size.toNat)

/-- Write the number of an element in its shortest form. -/
def binToNum : Step Unit := do
  let element := ScriptNumber.minimize (<- Step.pop)
  if element.length > vm.numberBounds.operandSize then throw .invalidNumberRange
  vm.push element

def splice : SpliceOperation -> Step Unit
  | .cat => do
    match <- Step.stack with
    | b :: a :: rest =>
      if a.length + b.length > vm.maxElementSize then throw .pushSize
      Step.setStack rest
      vm.push (a ++ b)
    | _ => throw .invalidStackOperation
  | .split => vm.split
  | .numToBin => vm.numToBin
  | .binToNum => vm.binToNum
  | .size => do
    vm.pushNumber (<- Step.elementAt 0).length
  | .reverseBytes => do
    vm.push (<- Step.pop).reverse

def combineBytes : BitwiseOperation -> UInt8 -> UInt8 -> UInt8
  | .and => fun left right => left &&& right
  | .or => fun left right => left ||| right
  | .xor => fun left right => left ^^^ right

/-- Combine two elements of one length bit by bit. -/
def bitwise (operation : BitwiseOperation) : Step Unit := do
  match <- Step.stack with
  | b :: a :: rest =>
    if a.length ≠ b.length then throw .invalidOperandSize
    Step.setStack rest
    vm.push (List.zipWith (combineBytes operation) a b)
  | _ => throw .invalidStackOperation

def equal (required : Bool) : Step Unit := do
  match <- Step.stack with
  | b :: a :: rest =>
    Step.setStack rest
    vm.pushBool (a == b)
    Step.verifyTopIf required .equalVerify
  | _ => throw .invalidStackOperation

end Interpreter
end SpendRules

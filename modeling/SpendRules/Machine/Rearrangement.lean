import SpendRules.Machine

namespace SpendRules
namespace Interpreter

/-!
# Rearranging the stacks

Operations that copy, move and drop whole elements.  Copies are pushed and cost their
length; most moves only rearrange and cost nothing.
-/

variable (vm : Interpreter)

/-- Push copies of elements of the stack, unless it holds too little. -/
def pushCopies (choose : List Bytes -> Option (List Bytes)) : Step Unit := do
  match choose (<- Step.stack) with
  | some copies => vm.pushAll copies
  | none => throw .invalidStackOperation

/-- Copy or move an element from the depth that the top element names. -/
def pushFromDepth (moves : Bool) : Step Unit := do
  Step.require 2
  let depth <- vm.popIndex
  let stack <- Step.stack
  if depth < 0 then throw .invalidStackOperation
  match stack[depth.toNat]? with
  | none => throw .invalidStackOperation
  | some element =>
    if moves then Step.setStack (stack.eraseIdx depth.toNat)
    vm.push element

def rearrangeStacks : StackOperation -> Step Unit
  | .toAltStack => do
    let element <- Step.pop
    modify fun machine => { machine with altStack := element :: machine.altStack }
  | .fromAltStack => do
    match (<- get).altStack with
    | element :: rest =>
      modify fun machine => { machine with altStack := rest }
      vm.push element
    | [] => throw .invalidAltstackOperation
  | .dropTwo =>
    Step.rearrange fun
      | _ :: _ :: rest => some rest
      | _ => none
  | .dupTwo =>
    vm.pushCopies fun
      | b :: a :: _ => some [a, b]
      | _ => none
  | .dupThree =>
    vm.pushCopies fun
      | c :: b :: a :: _ => some [a, b, c]
      | _ => none
  | .overTwo =>
    vm.pushCopies fun
      | _ :: _ :: b :: a :: _ => some [a, b]
      | _ => none
  | .rotTwo => do
    match <- Step.stack with
    | f :: e :: d :: c :: b :: a :: rest =>
      Step.setStack (f :: e :: d :: c :: rest)
      vm.pushAll [a, b]
    | _ => throw .invalidStackOperation
  | .swapTwo =>
    Step.rearrange fun
      | d :: c :: b :: a :: rest => some (b :: a :: d :: c :: rest)
      | _ => none
  | .dupIfTrue =>
    vm.pushCopies fun
      | a :: _ => some (if ScriptNumber.isTrue a then [a] else [])
      | _ => none
  | .depth => do
    vm.pushNumber (<- Step.stack).length
  | .drop => do
    let _ <- Step.pop
  | .dup =>
    vm.pushCopies fun
      | a :: _ => some [a]
      | _ => none
  | .nip =>
    Step.rearrange fun
      | b :: _ :: rest => some (b :: rest)
      | _ => none
  | .over =>
    vm.pushCopies fun
      | _ :: a :: _ => some [a]
      | _ => none
  | .pick => vm.pushFromDepth false
  | .roll => vm.pushFromDepth true
  | .rot =>
    Step.rearrange fun
      | c :: b :: a :: rest => some (a :: c :: b :: rest)
      | _ => none
  | .swap =>
    Step.rearrange fun
      | b :: a :: rest => some (a :: b :: rest)
      | _ => none
  | .tuck => do
    match <- Step.stack with
    | b :: a :: rest =>
      vm.charge b.length
      Step.setStack (b :: a :: b :: rest)
    | _ => throw .invalidStackOperation

end Interpreter
end SpendRules

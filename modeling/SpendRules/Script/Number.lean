import SpendRules.Bytes
import SpendRules.Failure

namespace SpendRules
namespace ScriptNumber

/-!
# Numbers on the stack

An element of the stack stands for an integer: its magnitude with the least significant byte
first, and the highest bit of the last byte as the sign.  The empty element is zero.
Several elements stand for one integer, and one of them, the shortest, is its encoding.

Integers are exact here.  A rule set only bounds how long an operand may be and how long a
result may grow.
-/

/-- The weight of the sign bit in an element of the given length. -/
def signWeight (length : Nat) : Nat :=
  1 <<< (8 * length - 1)

/-- The integer that an element stands for, however it is written. -/
def value (element : Bytes) : Int :=
  let raw := element.toNatLE
  let weight := signWeight element.length
  if raw < weight then (raw : Int) else -((raw - weight : Nat) : Int)

def encodedLength (number : Int) : Nat :=
  if number = 0 then 0 else (number.natAbs.log2 + 9) / 8

/-- The sign of an integer, in the highest bit of a byte. -/
def signBit (number : Int) : UInt8 :=
  if number < 0 then 0x80 else 0x00

/-- The shortest element that stands for an integer.  The sign takes the highest bit of the
last byte, or a byte of its own where the magnitude needs this bit itself. -/
def encode (number : Int) : Bytes :=
  let magnitude := Bytes.ofNatLE (Bytes.width number.natAbs) number.natAbs
  match magnitude.getLast? with
  | none => []
  | some last =>
    if last &&& 0x80 = 0 then magnitude.dropLast ++ [last ||| signBit number]
      else magnitude ++ [signBit number]

/-- The element has no superfluous byte at its end.  A last byte that holds no more than the
sign is needed only when the byte before it would otherwise lend it its highest bit. -/
def isMinimal (element : Bytes) : Bool :=
  match element.reverse with
  | [] => true
  | [last] => last &&& 0x7f != 0
  | last :: previous :: _ => last &&& 0x7f != 0 || previous &&& 0x80 != 0

def minimize (element : Bytes) : Bytes :=
  encode (value element)

/-- The integer of an element that is not too long and, on demand, in its shortest form. -/
def decode (element : Bytes) (requireMinimal : Bool) (maxLength : Nat) : Except ScriptError Int :=
  if element.length > maxLength then .error .invalidNumberRange
  else if requireMinimal && !isMinimal element then .error .minimalNumber
  else .ok (value element)

/-- The number of an element, written with exactly the given number of bytes: the sign moves
to the new last byte.  The element is in its shortest form and no longer than that. -/
def widen (element : Bytes) (size : Nat) : Bytes :=
  if element.length < size then
    match element.getLast? with
    | none => List.replicate size 0
    | some last =>
      element.dropLast ++ (last &&& 0x7f) ::
        (List.replicate (size - 1 - element.length) 0 ++ [last &&& 0x80])
  else element

/-- The element is true: some byte of it is not zero, the sign bit at its end not counted. -/
def isTrue : Bytes -> Bool
  | [] => false
  | [last] => last != 0 && last != 0x80
  | byte :: rest => byte != 0 || isTrue rest

def ofBool (condition : Bool) : Int :=
  if condition then 1 else 0

def minWord : Int := -0x8000000000000000

def maxWord : Int := 0x7fffffffffffffff

/-- The number as a signed 64-bit word, when it is one. -/
def toWord? (number : Int) : Option Int :=
  if minWord ≤ number ∧ number ≤ maxWord then some number else none

/-- The signed 64-bit word that is closest to the number. -/
def clamp (number : Int) : Int :=
  if number < minWord then minWord else if maxWord < number then maxWord else number

/-- How long operands may be and how long results may grow; without a result size, results
are not bounded. -/
structure Bounds where
  operandSize : Nat
  resultSize : Option Nat
  deriving DecidableEq, Repr

/-- Refuse a result that has outgrown its bound. -/
def checkResult (resultSize : Option Nat) (number : Int) : Except ScriptError Int :=
  match resultSize with
  | some size => if encodedLength number > size then .error .invalidNumberRange else .ok number
  | none => .ok number

/-- The quotient, rounded toward zero; none when dividing by zero. -/
def quotient? (dividend divisor : Int) : Option Int :=
  if divisor = 0 then none else some (dividend.tdiv divisor)

/-- The remainder, with the sign of the dividend; none when dividing by zero. -/
def remainder? (dividend divisor : Int) : Option Int :=
  if divisor = 0 then none else some (dividend.tmod divisor)

end ScriptNumber
end SpendRules

namespace SpendRules
namespace Secp256k1

/-!
# Arithmetic modulo a number

The coordinates of the curve are numbers modulo a prime, and the multiples of its points are
numbers modulo the order of the curve, which is prime too.  Both are plain natural numbers
here; the modulus is an argument.
-/

def prime : Nat := 0xfffffffffffffffffffffffffffffffffffffffffffffffffffffffefffffc2f

/-- The order of the curve, a prime. -/
def order : Nat := 0xfffffffffffffffffffffffffffffffebaaedce6af48a03bbfd25e8cd0364141

/-- The power of a number modulo another, by repeated squaring over the given number of low
bits of the exponent. -/
def powerOverBits (modulus base exponent : Nat) : Nat -> Nat -> Nat
  | 0, result => result
  | bit + 1, result =>
    let squared := result * result % modulus
    powerOverBits modulus base exponent bit
      (if exponent.testBit bit then squared * base % modulus else squared)

def power (modulus base exponent : Nat) : Nat :=
  powerOverBits modulus (base % modulus) exponent (exponent.log2 + 1) (1 % modulus)

/-- The inverse of a number modulo a prime; zero for zero. -/
def inverse (modulus value : Nat) : Nat :=
  power modulus value (modulus - 2)

def subtract (modulus left right : Nat) : Nat :=
  (left + modulus - right) % modulus

/-- A root of a coordinate, if it is a square.  The modulus is three modulo four, so one
power finds it. -/
def squareRoot? (value : Nat) : Option Nat :=
  let root := power prime value ((prime + 1) / 4)
  if root * root % prime = value % prime then some root else none

end Secp256k1
end SpendRules

import SpendRules.Secp256k1.Field

namespace SpendRules
namespace Secp256k1

/-!
# Points of the curve

The curve consists of the pairs `x`, `y` with `y ^ 2 = x ^ 3 + 7` and of one point at
infinity.  Sums are computed in projective coordinates, which put off all divisions to the
end.
-/

/-- A point that is not at infinity, by its coordinates. -/
structure AffinePoint where
  x : Nat
  y : Nat
  deriving DecidableEq, Repr

namespace AffinePoint

/-- The right side of the equation of the curve. -/
def cubic (x : Nat) : Nat :=
  (x * x % prime * x + 7) % prime

/-- The coordinates are reduced and satisfy the equation. -/
def isOnCurve (point : AffinePoint) : Bool :=
  decide (point.x < prime) && decide (point.y < prime) && point.y * point.y % prime == cubic point.x

/-- The point with a first coordinate and a second one of the given parity. -/
def lift? (x : Nat) (odd : Bool) : Option AffinePoint :=
  if x < prime then
    match squareRoot? (cubic x) with
    | some root =>
      if root % 2 == (if odd then 1 else 0) then some { x := x, y := root }
      else some { x := x, y := (prime - root) % prime }
    | none => none
  else none

def negate (point : AffinePoint) : AffinePoint :=
  { x := point.x, y := (prime - point.y) % prime }

/-- The point whose multiples are all points. -/
def generator : AffinePoint where
  x := 0x79be667ef9dcbbac55a06295ce870b07029bfcdb2dce28d959f2815b16f81798
  y := 0x483ada7726a3c4655da4fbfc0e1108a8fd17b448a68554199c47d08ffb10d4b8

end AffinePoint

/-- A point in projective coordinates: the square of `z` divides the first coordinate, its
cube the second.  The point is at infinity when `z` is zero. -/
structure ProjectivePoint where
  x : Nat
  y : Nat
  z : Nat
  deriving DecidableEq, Repr

namespace ProjectivePoint

def infinity : ProjectivePoint := { x := 1, y := 1, z := 0 }

def ofAffine (point : AffinePoint) : ProjectivePoint :=
  { x := point.x, y := point.y, z := 1 }

def toAffine? (point : ProjectivePoint) : Option AffinePoint :=
  if point.z = 0 then none
  else
    let scale := inverse prime point.z
    let square := scale * scale % prime
    some { x := point.x * square % prime, y := point.y * (square * scale % prime) % prime }

def double (point : ProjectivePoint) : ProjectivePoint :=
  if point.z = 0 ∨ point.y = 0 then infinity
  else
    let ySquare := point.y * point.y % prime
    let yFourth := ySquare * ySquare % prime
    let product := 4 * point.x * ySquare % prime
    let slope := 3 * point.x * point.x % prime
    let x := subtract prime (slope * slope % prime) (2 * product % prime)
    let y := subtract prime (slope * subtract prime product x % prime) (8 * yFourth % prime)
    { x := x, y := y, z := 2 * point.y * point.z % prime }

def add (left right : ProjectivePoint) : ProjectivePoint :=
  if left.z = 0 then right
  else if right.z = 0 then left
  else
    let leftSquare := left.z * left.z % prime
    let rightSquare := right.z * right.z % prime
    let leftX := left.x * rightSquare % prime
    let rightX := right.x * leftSquare % prime
    let leftY := left.y * (rightSquare * right.z % prime) % prime
    let rightY := right.y * (leftSquare * left.z % prime) % prime
    let width := subtract prime rightX leftX
    let height := subtract prime rightY leftY
    if width = 0 then
      if height = 0 then double left else infinity
    else
      let widthSquare := width * width % prime
      let widthCube := widthSquare * width % prime
      let middle := leftX * widthSquare % prime
      let x := subtract prime (height * height % prime) ((widthCube + 2 * middle) % prime)
      let y := subtract prime (height * subtract prime middle x % prime) (leftY * widthCube % prime)
      { x := x, y := y, z := width * (left.z * right.z % prime) % prime }

/-- One step of a combination for each of the given number of low bits of the factors. -/
def combineOverBits (left right both : ProjectivePoint) (leftFactor rightFactor : Nat) :
    Nat -> ProjectivePoint -> ProjectivePoint
  | 0, result => result
  | bit + 1, result =>
    let doubled := result.double
    let next :=
      match leftFactor.testBit bit, rightFactor.testBit bit with
      | true, true => doubled.add both
      | true, false => doubled.add left
      | false, true => doubled.add right
      | false, false => doubled
    combineOverBits left right both leftFactor rightFactor bit next

/-- The sum of a multiple of one point and a multiple of another, for factors of up to 256 bits. -/
def combine (leftFactor : Nat) (left : AffinePoint) (rightFactor : Nat) (right : AffinePoint) :
    ProjectivePoint :=
  let left := ofAffine left
  let right := ofAffine right
  combineOverBits left right (left.add right) leftFactor rightFactor 256 infinity

end ProjectivePoint

end Secp256k1
end SpendRules

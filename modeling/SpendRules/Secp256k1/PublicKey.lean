import SpendRules.Bytes
import SpendRules.Secp256k1.Point

namespace SpendRules
namespace Secp256k1

/-!
# Public keys

A public key is a point of the curve.  Its first byte says how the rest is written.  The two
signature schemes agree on the compressed and the full form and differ in which further
forms they know.
-/

/-- The point of a key that gives the first coordinate and the parity of the second. -/
private def compressed? (odd : Bool) (coordinate : Bytes) : Option AffinePoint :=
  if coordinate.length = 32 then AffinePoint.lift? (coordinate.toNat .mostFirst) odd else none

private def full? (coordinates : Bytes) : Option AffinePoint :=
  if coordinates.length = 64 then
    let point : AffinePoint :=
      { x := Bytes.toNat .mostFirst (coordinates.take 32),
        y := Bytes.toNat .mostFirst (coordinates.drop 32) }
    if point.isOnCurve then some point else none
  else none

/-- The point of a key for the older scheme, which also knows keys that give both
coordinates and the parity. -/
def ecdsaKey? : Bytes -> Option AffinePoint
  | [] => none
  | mark :: coordinates =>
    if mark = 0x02 then compressed? false coordinates
    else if mark = 0x03 then compressed? true coordinates
    else if mark = 0x04 then full? coordinates
    else if mark = 0x06 then (full? coordinates).filter fun point => point.y % 2 == 0
    else if mark = 0x07 then (full? coordinates).filter fun point => point.y % 2 == 1
    else none

/-- The point of a key for the newer scheme, which also knows keys that leave out the parity. -/
def schnorrKey? : Bytes -> Option AffinePoint
  | [] => none
  | mark :: coordinates =>
    if mark = 0x02 ∨ mark = 0x05 then compressed? false coordinates
    else if mark = 0x03 then compressed? true coordinates
    else if mark = 0x04 then full? coordinates
    else none

def compress (point : AffinePoint) : Bytes :=
  (if point.y % 2 = 0 then 0x02 else 0x03) :: Bytes.ofNat .mostFirst 32 point.x

end Secp256k1
end SpendRules

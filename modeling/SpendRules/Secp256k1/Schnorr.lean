import SpendRules.Failure
import SpendRules.Hash.Sha256
import SpendRules.Secp256k1.PublicKey

namespace SpendRules
namespace Secp256k1

/-!
# The newer signature scheme

A signature is the first coordinate of a point and a number.  The point is recomputed from
the number, the key and a challenge that hashes everything else, and has to have that first
coordinate and a second one that is a square.
-/

def schnorrLength : Nat := 64

/-- The challenge: the hash of the first coordinate, the compressed key and the digest, as a
number. -/
def challenge (coordinate key : Bytes) (digest : Hash256) : Nat :=
  (Hash.sha256 (coordinate ++ key ++ digest.bytes)).bytes.toNat .mostFirst % order

/-- Check a signature of the newer scheme.  Its length is checked before the key is read. -/
def verifySchnorr (key signature : Bytes) (digest : Hash256) : Except CryptoError Bool :=
  if signature.length ≠ schnorrLength then .error .invalidSignature
  else
    match schnorrKey? key with
    | none => .error .invalidPublicKey
    | some point =>
      let coordinate := signature.take 32
      let number := Bytes.toNat .mostFirst (signature.drop 32)
      if number < order then
        let factor := challenge coordinate (compress point) digest
        match (ProjectivePoint.combine number .generator factor point.negate).toAffine? with
        | none => .ok false
        | some found =>
          .ok (found.x == Bytes.toNat .mostFirst coordinate && (squareRoot? found.y).isSome)
      else .ok false

end Secp256k1
end SpendRules

import SpendRules.Failure
import SpendRules.Hash256
import SpendRules.Secp256k1.PublicKey

namespace SpendRules
namespace Secp256k1

/-!
# The older signature scheme

A signature is a pair of numbers, written as two integers inside a sequence.  Reading is
tolerant: lengths of the sequence, superfluous zeros and bytes at the end do not matter.
Numbers that are too large turn the signature into one that never verifies.
-/

/-- A signature of the older scheme. -/
structure EcdsaSignature where
  r : Nat
  s : Nat
  deriving DecidableEq, Repr

namespace EcdsaSignature

/-- The signature that never verifies. -/
def never : EcdsaSignature := { r := 0, s := 0 }

/-- A length and what follows it: one byte, or after a byte that counts them, several bytes.
Eight significant bytes of a length are too many. -/
def integerLength? : Bytes -> Option (Nat × Bytes)
  | [] => none
  | first :: rest =>
    if first &&& 0x80 = 0 then some (first.toNat, rest)
    else
      match Bytes.splitExactly? (first.toNat - 0x80) rest with
      | none => none
      | some (digits, rest) =>
        if (digits.dropWhile (· == 0)).length ≥ 8 then none
          else some (digits.toNat .mostFirst, rest)

def integer? : Bytes -> Option (Nat × Bytes)
  | [] => none
  | mark :: rest =>
    if mark = 0x02 then
      match integerLength? rest with
      | none => none
      | some (length, rest) =>
        match Bytes.splitExactly? length rest with
        | some (digits, rest) => some (digits.toNat .mostFirst, rest)
        | none => none
    else none

/-- What follows the mark and the length of a sequence.  The length itself does not matter. -/
def afterSequenceHead? : Bytes -> Option Bytes
  | mark :: length :: rest =>
    if mark = 0x30 then
      if length &&& 0x80 = 0 then some rest
      else (Bytes.splitExactly? (length.toNat - 0x80) rest).map Prod.snd
    else none
  | _ => none

/-- The signature that bytes are tolerantly read as. -/
def read? (bytes : Bytes) : Option EcdsaSignature := do
  let rest <- afterSequenceHead? bytes
  let (r, rest) <- integer? rest
  let (s, _) <- integer? rest
  return if r < order ∧ s < order then { r := r, s := s } else never

/-- The second number is in the lower half of its range. -/
def isLow (signature : EcdsaSignature) : Bool :=
  decide (signature.s ≤ order / 2)

/-- The signature with the second number in the lower half, which is valid for the same keys
and digests. -/
def normalize (signature : EcdsaSignature) : EcdsaSignature :=
  if signature.isLow then signature else { signature with s := order - signature.s }

def verifies (signature : EcdsaSignature) (key : AffinePoint) (digest : Hash256) : Bool :=
  if signature.r = 0 ∨ signature.s = 0 then false
  else
    let scale := inverse order signature.s
    let message := digest.bytes.toNat .mostFirst % order
    let point :=
      ProjectivePoint.combine (message * scale % order) .generator (signature.r * scale % order) key
    match point.toAffine? with
    | none => false
    | some point => point.x % order == signature.r

end EcdsaSignature

/-- Check a signature of the older scheme.  The key is read first. -/
def verifyEcdsa (key signature : Bytes) (digest : Hash256) : Except CryptoError Bool :=
  match ecdsaKey? key with
  | none => .error .invalidPublicKey
  | some point =>
    match EcdsaSignature.read? signature with
    | none => .error .invalidSignature
    | some signature => .ok (signature.normalize.verifies point digest)

end Secp256k1
end SpendRules

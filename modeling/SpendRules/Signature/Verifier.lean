import SpendRules.Secp256k1.Ecdsa
import SpendRules.Secp256k1.Schnorr

namespace SpendRules

/-!
# Verifiers

The machine does not check signatures itself.  It asks a verifier, which is any function of
the scheme, the key, the signature without its hash type, and the digest.  A verifier that
cannot read its arguments says so; the machine takes that as a failed check.
-/

inductive SignatureScheme where
  | ecdsa
  | schnorr
  deriving DecidableEq, Repr

/-- The scheme of a signature without hash type: its length decides. -/
def SignatureScheme.ofSignature (signature : Bytes) : SignatureScheme :=
  if signature.length = Secp256k1.schnorrLength then .schnorr else .ecdsa

structure SignatureQuery where
  scheme : SignatureScheme
  key : Bytes
  signature : Bytes
  digest : Hash256
  deriving DecidableEq

abbrev SignatureVerifier := SignatureQuery -> Except CryptoError Bool

/-- The verifier that computes on the curve. -/
def Secp256k1.verifier : SignatureVerifier := fun query =>
  match query.scheme with
  | .ecdsa => verifyEcdsa query.key query.signature query.digest
  | .schnorr => verifySchnorr query.key query.signature query.digest

end SpendRules

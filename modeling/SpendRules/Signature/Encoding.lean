import SpendRules.Rules
import SpendRules.Secp256k1.Ecdsa
import SpendRules.Secp256k1.Schnorr
import SpendRules.Signature.HashType

namespace SpendRules
namespace Signature

/-!
# Admitted forms of signatures and keys

Before a signature is checked, its form is.  Which forms are admitted depends on the rules.
A signature of the newer scheme is recognised by its length alone.  A transaction signature
has one byte more, its hash type.
-/

/-- The integer of a signature whose mark stands at the given offset is canonical: it is
marked, not empty, not negative, and has no superfluous zero in front.  None when a byte
that is looked at does not exist. -/
def hasCanonicalInteger (signature : Bytes) (offset length : Nat) : Option Bool := do
  if (<- signature[offset]?) != 0x02 then return false
  if length == 0 then return false
  let first <- signature[offset + 2]?
  if first &&& 0x80 != 0 then return false
  if length > 1 && first == 0x00 then return (<- signature[offset + 3]?) &&& 0x80 != 0
  return true

/-- Look through a signature of the older scheme, without hash type: a sequence of two
canonical integers, with all lengths in one byte and right.  Where the second integer starts
is computed from the length of the first one, so each check also has to make sure that the
bytes exist that the later ones look at.  None when one does not. -/
def inspect (signature : Bytes) : Option Bool := do
  if signature.length < 8 || signature.length > 72 then return false
  if (<- signature[0]?) != 0x30 then return false
  if (<- signature[1]?).toNat != signature.length - 2 then return false
  let firstLength := (<- signature[3]?).toNat
  if 5 + firstLength ≥ signature.length then return false
  let secondLength := (<- signature[5 + firstLength]?).toNat
  if firstLength + secondLength + 6 != signature.length then return false
  if !(<- hasCanonicalInteger signature 2 firstLength) then return false
  hasCanonicalInteger signature (firstLength + 4) secondLength

def isCanonical (signature : Bytes) : Bool :=
  (inspect signature).getD false

/-- The second number of a canonical signature is in the lower half of its range. -/
def isLow (signature : Bytes) : Except ScriptError Bool :=
  if isCanonical signature then
    match Secp256k1.EcdsaSignature.read? signature with
    | some read => .ok read.isLow
    | none => .error .sigDer
  else .error .sigDer

def isSchnorr (signature : Bytes) : Bool :=
  signature.length == Secp256k1.schnorrLength

/-- The key is compressed or gives both coordinates. -/
def isCanonicalKey : Bytes -> Bool
  | [] => false
  | mark :: coordinates =>
    if mark = 0x02 ∨ mark = 0x03 then coordinates.length == 32
    else mark == 0x04 && coordinates.length == 64

def checkRaw (signature : Bytes) (rules : RuleSet) : Except ScriptError Unit := do
  if isSchnorr signature then .ok ()
  else if (rules.enables .strictDer || rules.enables .lowS || rules.enables .strictEncoding) &&
      !isCanonical signature then .error .sigDer
  else if rules.enables .lowS then
    let low <- isLow signature
    if low then .ok () else .error .sigHighS
  else .ok ()

def checkHashType (signature : Bytes) (rules : RuleSet) : Except ScriptError Unit :=
  if rules.enables .strictEncoding then
    match SigHashType.ofSignature? signature with
    | none => .error .sigHashType
    | some hashType =>
      if !hashType.isDefined then .error .sigHashType
      else if !rules.enables .forkId && hashType.hasForkId then .error .illegalForkId
      else if rules.enables .forkId && !hashType.hasForkId then .error .mustUseForkId
      else if hashType.hasUtxos && (!rules.enables .tokens || hashType.hasAnyoneCanPay) then
        .error .sigHashType
      else .ok ()
  else .ok ()

/-- Check the form of a signature of data, which has no hash type.  An empty one is admitted
and fails later. -/
def checkData (signature : Bytes) (rules : RuleSet) : Except ScriptError Unit :=
  if signature.isEmpty then .ok () else checkRaw signature rules

/-- Check the form of a transaction signature.  An empty one is admitted and fails later. -/
def checkTransaction (signature : Bytes) (rules : RuleSet) : Except ScriptError Unit := do
  if signature.isEmpty then .ok ()
  else
    checkRaw signature.dropLast rules
    checkHashType signature rules

/-- Check the form of a transaction signature where only the older scheme is admitted. -/
def checkTransactionEcdsa (signature : Bytes) (rules : RuleSet) : Except ScriptError Unit :=
  if signature.isEmpty then .ok ()
  else if isSchnorr signature.dropLast then .error .sigBadLength
  else checkTransaction signature rules

/-- Check the form of a transaction signature where only the newer scheme is admitted. -/
def checkTransactionSchnorr (signature : Bytes) (rules : RuleSet) : Except ScriptError Unit :=
  if signature.length ≠ Secp256k1.schnorrLength + 1 then .error .sigNonSchnorr
  else checkTransaction signature rules

def checkKey (key : Bytes) (rules : RuleSet) : Except ScriptError Unit :=
  if rules.enables .strictEncoding && !isCanonicalKey key then .error .pubkeyType else .ok ()

end Signature
end SpendRules

import SpendRules.Machine
import SpendRules.Signature.Digest
import SpendRules.Signature.Encoding

namespace SpendRules
namespace Interpreter

/-!
# Hashing and signature checks

The form of a signature and of its key is checked first, then the verifier is asked, then
the rules decide whether a failed check fails the script.  A multiple signature is checked
in one of two ways.  In the older way, keys and signatures are matched greedily from the
top.  In the newer way, the element below all signatures is a bitfield that selects one key
for each signature.
-/

variable (vm : Interpreter)

def hash (algorithm : Hash.Algorithm) : Step Unit := do
  let message <- Step.pop
  vm.chargeHash message.length algorithm.isTwofold
  vm.push (vm.hashes algorithm message)

/-- Ask the verifier.  A question that it cannot read counts as a failed check. -/
def ask (query : SignatureQuery) : Step Bool := do
  let answer := vm.verifier query
  modify fun machine =>
    { machine with calls := { query := query, answer := answer } :: machine.calls }
  match answer with
  | .ok valid => return valid
  | .error _ => return false

/-- The script code without a signature, which cannot sign itself.  A signature of the newer
composition stays. -/
def withoutSignature (code : Script) (signature : Bytes) : Script :=
  let hasForkId := (SigHashType.ofSignature? signature).any SigHashType.hasForkId
  if vm.enables .forkId && hasForkId then code else code.findAndDelete (Script.pushOf signature)

/-- The hash type of a transaction signature, with the number of the chain when it commits to it. -/
def hashTypeOf (hashByte : UInt8) : SigHashType :=
  let hashType : SigHashType := { raw := hashByte.toUInt32 }
  if hashType.hasForkId then hashType.withForkValue vm.forkId else hashType

/-- Check a transaction signature.  An empty one fails without a question. -/
def checkSignature (signature key : Bytes) (code : Script) : Step Bool := do
  match signature.getLast? with
  | none => return false
  | some hashByte =>
    let context <- vm.demandContext
    let digest <- Step.ofExcept (SigHash.digest context code (vm.hashTypeOf hashByte) vm.rules)
    let raw := signature.dropLast
    vm.ask { scheme := .ofSignature raw, key := key, signature := raw, digest := digest }

/-- Failed checks of signatures that are not all empty fail the script, when the rules say so. -/
def demandEmpty (valid : Bool) (signatures : List Bytes) : Step Unit :=
  if !valid && vm.enables .nullFail && signatures.any (fun signature => !signature.isEmpty) then
    throw .sigNullFail
  else pure ()

/-- Replace a signature and a key by whether the signature is valid for the transaction. -/
def checkSig (required : Bool) : Step Unit := do
  match <- Step.stack with
  | key :: signature :: rest =>
    Step.ofExcept (Signature.checkTransaction signature vm.rules)
    Step.ofExcept (Signature.checkKey key vm.rules)
    let code := vm.withoutSignature (<- get).scriptCode signature
    let valid <- vm.checkSignature signature key code
    vm.demandEmpty valid [signature]
    if !signature.isEmpty then vm.countSigChecks 1
    Step.setStack rest
    vm.pushBool valid
    Step.verifyTopIf required .checkSigVerify
  | _ => throw .invalidStackOperation

/-- Check a signature of a message, which is hashed once.  An empty one fails without a question. -/
def checkDataSignature (signature message key : Bytes) : Step Bool := do
  if signature.isEmpty then return false
  else
    vm.chargeHash message.length false
    let valid <- vm.ask
      { scheme := .ofSignature signature, key := key, signature := signature,
        digest := Hash.sha256 message }
    vm.countSigChecks 1
    return valid

/-- Replace a signature, a message and a key by whether the signature is valid for the message. -/
def checkDataSig (required : Bool) : Step Unit := do
  match <- Step.stack with
  | key :: message :: signature :: rest =>
    Step.ofExcept (Signature.checkData signature vm.rules)
    Step.ofExcept (Signature.checkKey key vm.rules)
    let valid <- vm.checkDataSignature signature message key
    vm.demandEmpty valid [signature]
    Step.setStack rest
    vm.pushBool valid
    Step.verifyTopIf required .checkDataSigVerify
  | _ => throw .invalidStackOperation

/-- Match signatures with keys, both from the top: each key is tried for the first signature
that is left.  More signatures than keys cannot be matched. -/
def matchKeys (code : Script) : List Bytes -> List Bytes -> Step Bool
  | [], _ => pure true
  | _ :: _, [] => pure false
  | signature :: signatures, key :: keys => do
    Step.ofExcept (Signature.checkTransactionEcdsa signature vm.rules)
    Step.ofExcept (Signature.checkKey key vm.rules)
    let valid <- vm.checkSignature signature key code
    let left := if valid then signatures else signature :: signatures
    if left.length > keys.length then return false
    else matchKeys code left keys

/-- Check a multiple signature in the older way. -/
def checkMultiSigByMatching (code : Script) (signatures keys : List Bytes) : Step Bool := do
  let valid <- vm.matchKeys code signatures keys
  vm.demandEmpty valid signatures
  if signatures.any (fun signature => !signature.isEmpty) then vm.countSigChecks keys.length
  return valid

/-- The bits of a bitfield over the given number of keys: as few bytes as hold them, and no
bit beyond them. -/
def bitfieldOf (element : Bytes) (keyCount : Nat) : Except ScriptError Nat :=
  if keyCount > 32 ∨ element.length ≠ (keyCount + 7) / 8 then .error .invalidBitfieldSize
  else if element.toNatLE >>> keyCount ≠ 0 then .error .invalidBitRange
  else .ok element.toNatLE

def selectedKeys (bitfield : Nat) (keys : List Bytes) : List Bytes :=
  (keys.zipIdx.filter fun entry => bitfield.testBit entry.2).map Prod.fst

/-- Demand that each signature is one of the newer scheme and valid for its key. -/
def demandAll (code : Script) : List (Bytes × Bytes) -> Step Unit
  | [] => pure ()
  | (signature, key) :: rest => do
    Step.ofExcept (Signature.checkTransactionSchnorr signature vm.rules)
    Step.ofExcept (Signature.checkKey key vm.rules)
    let valid <- vm.checkSignature signature key code
    if !valid then throw .sigNullFail
    vm.countSigChecks 1
    demandAll code rest

/-- Check a multiple signature in the newer way.  Bits, keys and signatures are counted from
the bottom. -/
def checkMultiSigBySelection (code : Script) (bitfield : Bytes) (signatures keys : List Bytes) :
    Step Bool := do
  let bits <- Step.ofExcept (bitfieldOf bitfield keys.length)
  let selected := selectedKeys bits keys.reverse
  if selected.length ≠ signatures.length then throw .invalidBitCount
  vm.demandAll code (signatures.reverse.zip selected)
  return true

/-- The element at an index as a count between zero and a bound. -/
def countAt (index bound : Nat) (failure : ScriptError) : Step Nat := do
  let count := ScriptNumber.clamp (<- vm.operand (<- Step.elementAt index))
  if count < 0 ∨ count > bound then throw failure
  return count.toNat

/-- The keys of a multiple signature count as operations while work is not metered. -/
def countKeys (keyCount : Nat) : Step Unit := do
  if !vm.isMetered then
    modify fun machine => { machine with opCount := machine.opCount + keyCount }
    if (<- get).opCount > vm.limits.maxOps.toNat then throw .opCount

/-- Replace a bitfield, signatures, their count, keys and their count by whether the
signatures are valid. -/
def checkMultiSig (required : Bool) : Step Unit := do
  let keyCount <- vm.countAt 0 vm.limits.maxPubkeysPerMultisig.toNat .pubkeyCount
  vm.countKeys keyCount
  let sigCount <- vm.countAt (1 + keyCount) keyCount .sigCount
  Step.require (3 + keyCount + sigCount)
  let machine <- get
  let keys := (machine.stack.drop 1).take keyCount
  let signatures := (machine.stack.drop (2 + keyCount)).take sigCount
  let bitfield <- Step.elementAt (2 + keyCount + sigCount)
  let code := signatures.foldl vm.withoutSignature machine.scriptCode
  let valid <-
    if vm.enables .schnorrMultisig && !bitfield.isEmpty then
      vm.checkMultiSigBySelection code bitfield signatures keys
    else vm.checkMultiSigByMatching code signatures keys
  Step.setStack (machine.stack.drop (3 + keyCount + sigCount))
  vm.pushBool valid
  Step.verifyTopIf required .checkMultiSigVerify

end Interpreter
end SpendRules

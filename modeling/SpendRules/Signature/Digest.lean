import SpendRules.Rules
import SpendRules.Script.Filter
import SpendRules.Signature.HashType
import SpendRules.SpendingContext

namespace SpendRules
namespace SigHash

/-!
# What a signature signs

A transaction signature signs the hash of a message, and the message is composed from the
parts of the transaction that the hash type selects.  There are two compositions.  The
older one is the transaction itself with parts blanked out.  The newer one lists the parts
one by one, the long ones by their hash, and adds the value and the token of the spent
output.

The messages are definitions of their own, apart from the hash that is taken of them.
-/

/-- The digest that the older composition gives where it has no message. -/
def one : Hash256 where
  bytes := 1 :: List.replicate 31 0
  length_eq := by simp

/-- An input in the older message.  Only the signed input keeps a script, which is the
running one.  The others have a script of length zero. -/
def legacyInput (hashType : SigHashType) (signed : Nat) (code : Script) (input : Input)
    (index : Nat) : Bytes :=
  OutPoint.format.encode input.prevout ++
    (if index = signed then Script.format.encode code else VarInt.encode 0) ++
    Bytes.ofNatLE 4
      (if index ≠ signed ∧ hashType.freesSequences then 0 else input.sequence.toNat)

def legacyInputs (tx : Transaction) (signed : Nat) (input : Input) (code : Script)
    (hashType : SigHashType) : Bytes :=
  let inputs := if hashType.hasAnyoneCanPay then [(input, signed)] else tx.inputs.zipIdx
  VarInt.encode inputs.length ++
    inputs.flatMap fun entry => legacyInput hashType signed code entry.1 entry.2

/-- The bytes that stand for an output in front of the selected one: the value minus one,
and a script of length zero. -/
def blankOutput : Bytes :=
  Bytes.ofNatLE 8 (-1 : BitVec 64).toNat ++ VarInt.encode 0

/-- The outputs of the older message; none at all when a single output is selected that does
not exist. -/
def legacyOutputs? (tx : Transaction) (signed : Nat) (hashType : SigHashType) : Option Bytes :=
  match hashType.selection with
  | .none => some (VarInt.encode 0)
  | .single =>
    tx.outputs[signed]?.map fun output =>
      VarInt.encode (signed + 1) ++ (List.replicate signed blankOutput).flatten ++
        Output.format.encode output
  | .all | .unsupported _ => some (Output.format.list.encode tx.outputs)

/-- The message of the older composition, unless the signed input or the selected output is
missing. -/
def legacyMessage? (tx : Transaction) (signed : Nat) (code : Script) (hashType : SigHashType) :
    Option Bytes :=
  match tx.inputs[signed]? with
  | none => none
  | some input =>
    (legacyOutputs? tx signed hashType).map fun outputs =>
      Bytes.ofNatLE 4 tx.version.toNat ++
        legacyInputs tx signed input code.withoutCodeSeparators hashType ++ outputs ++
        Bytes.ofNatLE 4 tx.lockTime.toNat ++ Bytes.ofNatLE 4 hashType.raw.toNat

def legacyDigest (tx : Transaction) (signed : Nat) (code : Script) (hashType : SigHashType) :
    Hash256 :=
  match legacyMessage? tx signed code hashType with
  | some message => Hash.doubleSha256 message
  | none => one

def prevoutsMessage (inputs : List Input) : Bytes :=
  inputs.flatMap fun input => OutPoint.format.encode input.prevout

def sequencesMessage (inputs : List Input) : Bytes :=
  inputs.flatMap fun input => Bytes.ofNatLE 4 input.sequence.toNat

def outputsMessage (outputs : List Output) : Bytes :=
  outputs.flatMap Output.format.encode

def hashPrevouts (inputs : List Input) : Hash256 :=
  Hash.doubleSha256 (prevoutsMessage inputs)

def hashSequences (inputs : List Input) : Hash256 :=
  Hash.doubleSha256 (sequencesMessage inputs)

def hashOutputs (outputs : List Output) : Hash256 :=
  Hash.doubleSha256 (outputsMessage outputs)

def committedPrevouts (context : SpendingContext) (hashType : SigHashType) : Hash256 :=
  if hashType.hasAnyoneCanPay then Hash256.zero else hashPrevouts context.tx.inputs

def committedSequences (context : SpendingContext) (hashType : SigHashType) : Hash256 :=
  if hashType.hasAnyoneCanPay || hashType.freesSequences then Hash256.zero
  else hashSequences context.tx.inputs

/-- The hash of created outputs that the newer message holds. -/
def committedOutputs (context : SpendingContext) (hashType : SigHashType) : Hash256 :=
  match hashType.selection with
  | .none => Hash256.zero
  | .single =>
    match context.tx.outputs[context.index]? with
    | some output => hashOutputs [output]
    | none => Hash256.zero
  | .all | .unsupported _ => hashOutputs context.tx.outputs

/-- The hash of spent outputs that the newer message holds when the hash type asks for it.
It requires tokens, all inputs, and a context that knows what they spend. -/
def committedUtxos (context : SpendingContext) (hashType : SigHashType) (rules : RuleSet) :
    Except ScriptError Bytes :=
  if hashType.hasUtxos then
    if !rules.enables .tokens || hashType.hasAnyoneCanPay then .error .sigHashType
    else
      match context.allSpent with
      | some outputs => .ok (hashOutputs outputs).bytes
      | none => .error .contextUnavailable
  else .ok []

/-- The token of the spent output as the newer message holds it. -/
def committedToken (context : SpendingContext) (rules : RuleSet) : Bytes :=
  if rules.enables .tokens then
    match context.spent.token with
    | some token => Token.marker :: token.encode
    | none => []
  else []

/-- The message of the newer composition. -/
def forkIdMessage (context : SpendingContext) (code : Script) (hashType : SigHashType)
    (rules : RuleSet) : Except ScriptError Bytes := do
  let utxos <- committedUtxos context hashType rules
  return Bytes.ofNatLE 4 context.tx.version.toNat ++
    (committedPrevouts context hashType).bytes ++
    utxos ++
    (committedSequences context hashType).bytes ++
    OutPoint.format.encode context.input.prevout ++
    committedToken context rules ++
    Script.format.encode code ++
    Bytes.ofNatLE 8 context.spent.value.toNat ++
    Bytes.ofNatLE 4 context.input.sequence.toNat ++
    (committedOutputs context hashType).bytes ++
    Bytes.ofNatLE 4 context.tx.lockTime.toNat ++
    Bytes.ofNatLE 4 hashType.raw.toNat

def forkIdDigest (context : SpendingContext) (code : Script) (hashType : SigHashType)
    (rules : RuleSet) : Except ScriptError Hash256 :=
  Hash.doubleSha256 <$> forkIdMessage context code hashType rules

/-- The digest that a signature signs.  The newer composition is used when both the rules and
the hash type ask for it. -/
def digest (context : SpendingContext) (code : Script) (hashType : SigHashType) (rules : RuleSet) :
    Except ScriptError Hash256 :=
  if hashType.hasForkId && rules.enables .forkId then forkIdDigest context code hashType rules
  else .ok (legacyDigest context.tx context.index code hashType)

end SigHash
end SpendRules

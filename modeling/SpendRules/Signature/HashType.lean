import SpendRules.Bytes

namespace SpendRules

/-!
# Signature hash types

The last byte of a transaction signature says which parts of the transaction it commits to.
The low bits select the outputs, three further bits modify the selection, and signatures for
a chain of its own carry the number of that chain above the byte.
-/

/-- Which outputs a signature commits to. -/
inductive OutputSelection where
  | all
  | none
  /-- The output with the index of the signed input. -/
  | single
  /-- Not one of the defined selections. -/
  | unsupported (bits : UInt32)
  deriving DecidableEq, Repr

structure SigHashType where
  raw : UInt32
  deriving DecidableEq, Repr

namespace SigHashType

/-- The bit that commits to all spent outputs. -/
def utxosBit : UInt32 := 0x20

/-- The bit that commits to the chain. -/
def forkIdBit : UInt32 := 0x40

/-- The bit that leaves all inputs but the signed one free. -/
def anyoneCanPayBit : UInt32 := 0x80

/-- The hash type in the last byte of a transaction signature. -/
def ofSignature? (signature : Bytes) : Option SigHashType :=
  signature.getLast?.map fun last => { raw := last.toUInt32 }

/-- The hash type with the number of a chain above its byte. -/
def withForkValue (hashType : SigHashType) (forkValue : UInt32) : SigHashType :=
  { raw := (forkValue <<< 8) ||| (hashType.raw &&& 0xff) }

def forkValue (hashType : SigHashType) : UInt32 :=
  hashType.raw >>> 8

def selection (hashType : SigHashType) : OutputSelection :=
  let bits := hashType.raw &&& 0x1f
  if bits = 1 then .all
  else if bits = 2 then .none
  else if bits = 3 then .single
  else .unsupported bits

def hasBit (hashType : SigHashType) (bit : UInt32) : Bool :=
  hashType.raw &&& bit != 0

def hasForkId (hashType : SigHashType) : Bool := hashType.hasBit forkIdBit

def hasAnyoneCanPay (hashType : SigHashType) : Bool := hashType.hasBit anyoneCanPayBit

def hasUtxos (hashType : SigHashType) : Bool := hashType.hasBit utxosBit

/-- The signature leaves the sequence numbers of the other inputs free: it does not commit
to all outputs. -/
def freesSequences (hashType : SigHashType) : Bool :=
  hashType.selection == .none || hashType.selection == .single

/-- The byte is one of the three selections once the modifying bits are removed. -/
def isDefined (hashType : SigHashType) : Bool :=
  let bits := hashType.raw &&& 0xff &&& ~~~(forkIdBit ||| anyoneCanPayBit ||| utxosBit)
  decide (1 ≤ bits) && decide (bits ≤ 3)

end SigHashType

end SpendRules

import SpendRules.Hash.Sha256
import SpendRules.Script.Instruction
import SpendRules.Token

namespace SpendRules

/-!
# Transactions

A transaction spends outputs of earlier transactions, which its inputs point to, and creates
outputs of its own.  The formats of all parts are given here.  An output has two of them:
the wire form, and the record form of a store, which puts four bytes in front.
-/

/-- A reference to an output: the transaction that created it and its index there. -/
structure OutPoint where
  hash : Hash256
  index : UInt32
  deriving DecidableEq, Hashable

namespace OutPoint

def null : OutPoint := { hash := Hash256.zero, index := 0xffffffff }

def isNull (outPoint : OutPoint) : Bool :=
  outPoint.index == 0xffffffff && outPoint.hash == Hash256.zero

def format : Format OutPoint where
  encode outPoint := outPoint.hash.bytes ++ Bytes.ofNatLE 4 outPoint.index.toNat
  size _ := 36
  read := do
    let hash <- Read.hash256
    let index <- Read.word32
    return { hash := hash, index := index }

end OutPoint

/-- A spending of an output: the reference, the script that unlocks it, and a sequence number. -/
structure Input where
  prevout : OutPoint
  script : Script
  sequence : UInt32
  deriving DecidableEq

namespace Input

/-- The number of bytes of the smallest input: one without a script. -/
def leastSize : Nat := 41

def format : Format Input where
  encode input :=
    OutPoint.format.encode input.prevout ++ Script.format.encode input.script ++
      Bytes.ofNatLE 4 input.sequence.toNat
  size input := OutPoint.format.size input.prevout + Script.format.size input.script + 4
  read := do
    let prevout <- OutPoint.format.read
    let script <- Script.format.read
    let sequence <- Read.word32
    return { prevout := prevout, script := script, sequence := sequence }

end Input

/-- An output: a value, the script that locks it, and a token or none. -/
structure Output where
  value : UInt64
  script : Script
  token : Option Token
  deriving DecidableEq

namespace Output

def plain (value : UInt64) (script : Script) : Output :=
  { value := value, script := script, token := none }

/-- The number of bytes of the smallest output: one with an empty script field. -/
def leastSize : Nat := 9

/-- The value that stands for a missing output. -/
def missingValue : UInt64 := 0xffffffffffffffff

def missing : Output := plain missingValue { bytes := [] }

def isPresent (output : Output) : Bool :=
  output.value != missingValue

/-- The bytes of the script field: the script, after marker and token when there is one. -/
def scriptField (output : Output) : Bytes :=
  match output.token with
  | some token => Token.marker :: (token.encode ++ output.script.bytes)
  | none => output.script.bytes

def scriptFieldSize (output : Output) : Nat :=
  match output.token with
  | some token => 1 + token.size + output.script.bytes.length
  | none => output.script.bytes.length

/-- The output with a value and the content of a script field.  A marker in front announces
a token. -/
def ofScriptField (value : UInt64) (field : Bytes) : Except CodecError Output :=
  match field with
  | first :: payload =>
    if first = Token.marker then
      match Token.read (Cursor.ofBytes payload) with
      | .ok token cursor =>
          .ok { value := value, script := { bytes := cursor.rest }, token := some token }
      | .error failure _ => .error failure
    else .ok (plain value { bytes := field })
  | [] => .ok (plain value { bytes := field })

/-- The form of an output on the wire: value, then script field after its length. -/
def format : Format Output where
  encode output := Bytes.ofNatLE 8 output.value.toNat ++ output.scriptField.lengthPrefixed
  size output := 8 + VarInt.size output.scriptFieldSize + output.scriptFieldSize
  read := do
    let value <- Read.word64
    let field <- Read.prefixedBytes
    match ofScriptField value field with
    | .ok output => return output
    | .error failure => throw failure

/-- The four bytes in front of an output in a store, which say that it is not spent. -/
def unspentMark : Bytes := [0xff, 0xff, 0xff, 0xff]

/-- The form of an output in a store: four bytes about its spending, then the wire form. -/
def recordFormat : Format Output where
  encode output := unspentMark ++ format.encode output
  size output := 4 + format.size output
  read := do
    let _ <- Read.word32
    format.read

end Output

structure Transaction where
  version : UInt32
  inputs : List Input
  outputs : List Output
  lockTime : UInt32
  deriving DecidableEq

namespace Transaction

def format : Format Transaction where
  encode tx :=
    Bytes.ofNatLE 4 tx.version.toNat ++ Input.format.list.encode tx.inputs ++
      Output.format.list.encode tx.outputs ++ Bytes.ofNatLE 4 tx.lockTime.toNat
  size tx := 4 + Input.format.list.size tx.inputs + Output.format.list.size tx.outputs + 4
  read := do
    let version <- Read.word32
    let inputs <- Input.format.list.read
    let outputs <- Output.format.list.read
    let lockTime <- Read.word32
    return { version := version, inputs := inputs, outputs := outputs, lockTime := lockTime }

/-- The name of a transaction: the double hash of its bytes. -/
def id (tx : Transaction) : Hash256 :=
  Hash.doubleSha256 (format.encode tx)

/-- The transaction creates money: its only input spends nothing. -/
def isCoinbase (tx : Transaction) : Bool :=
  match tx.inputs with
  | [input] => input.prevout.isNull
  | _ => false

end Transaction

end SpendRules

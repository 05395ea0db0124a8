import SpendRules.Json.Record
import SpendRules.Transaction

namespace SpendRules

/-!
# Transactions as JSON

The records of a transaction and its parts.  They show every value of the types, also
outputs that have no wire form of their own.  Reading them back, every field must be given,
but for a token, an amount and an item, which may be absent or null.
-/

open Json

namespace Json.Value

def ofWord32 (word : UInt32) : Value :=
  .ofInt word.toNat

def word32? (value : Value) : Option UInt32 :=
  (value.natBelow? UInt32.size).map UInt32.ofNat

end Json.Value

namespace Hash256

def toJson (hash : Hash256) : Value :=
  .ofBytes hash.bytes

def ofJson? (value : Value) : Option Hash256 :=
  value.bytes? >>= ofBytes?

end Hash256

namespace Script

def toJson (script : Script) : Value :=
  .ofBytes script.bytes

def ofJson? (value : Value) : Option Script :=
  value.bytes?.map Script.mk

end Script

namespace OutPoint

def toJson (outPoint : OutPoint) : Value :=
  .record [("hash", outPoint.hash.toJson), ("index", .ofWord32 outPoint.index)]

/-- The reference that a value denotes. -/
def ofJson? (value : Value) : Option OutPoint :=
  match value.fields? ["hash", "index"] .allFields with
  | some [some hash, some index] => do
    return { hash := <- Hash256.ofJson? hash, index := <- index.word32? }
  | _ => none

end OutPoint

namespace Input

def toJson (input : Input) : Value :=
  .record [("prevout", input.prevout.toJson), ("script", input.script.toJson),
    ("sequence", .ofWord32 input.sequence)]

def ofJson? (value : Value) : Option Input :=
  match value.fields? ["prevout", "script", "sequence"] .allFields with
  | some [some prevout, some script, some sequence] => do
    return {
      prevout := <- OutPoint.ofJson? prevout
      script := <- Script.ofJson? script
      sequence := <- sequence.word32? }
  | _ => none

end Input

namespace Capability

def name : Capability -> String
  | .immutable => "None"
  | .mutable => "Mutable"
  | .minting => "Minting"

def ofName? (text : String) : Option Capability :=
  [Capability.immutable, .mutable, .minting].find? fun capability => capability.name == text

/-- The capability that a value denotes: its name, alone or as the only key of an object
with nothing at it. -/
def ofJson? : Value -> Option Capability
  | .string (some text) => ofName? text
  | .object [(some text, .null)] => ofName? text
  | _ => none

def toJson (capability : Capability) : Value :=
  .string (some capability.name)

end Capability

namespace NonFungible

def toJson (nft : NonFungible) : Value :=
  .record [("capability", nft.capability.toJson), ("commitment", .ofBytes nft.commitment)]

/-- The item that a value denotes. -/
def ofJson? (value : Value) : Option NonFungible :=
  match value.fields? ["capability", "commitment"] .allFields with
  | some [some capability, some commitment] => do
    return { capability := <- Capability.ofJson? capability, commitment := <- commitment.bytes? }
  | _ => none

end NonFungible

namespace Token

def toJson (token : Token) : Value :=
  .record [("category", token.category.toJson),
    ("amount", .ofOption (fun amount => .ofInt amount.toInt) token.amount),
    ("nft", .ofOption NonFungible.toJson token.nft)]

/-- The signed word that a value denotes. -/
def amount? (value : Value) : Option Int64 :=
  (value.intWithin? (-0x8000000000000000) 0x7fffffffffffffff).map Int64.ofInt

def ofJson? (value : Value) : Option Token :=
  match value.fields? ["category", "amount", "nft"] .allFields with
  | some [some category, amount, nft] => do
    return {
      category := <- Hash256.ofJson? category
      amount := <- Value.optional? amount? amount
      nft := <- Value.optional? NonFungible.ofJson? nft }
  | _ => none

end Token

namespace Output

def toJson (output : Output) : Value :=
  .record [("value", .ofInt output.value.toNat), ("script", output.script.toJson),
    ("token", .ofOption Token.toJson output.token)]

def ofJson? (value : Value) : Option Output :=
  match value.fields? ["value", "script", "token"] .allFields with
  | some [some amount, some script, token] => do
    return {
      value := UInt64.ofNat (<- amount.natBelow? UInt64.size)
      script := <- Script.ofJson? script
      token := <- Value.optional? Token.ofJson? token }
  | _ => none

end Output

namespace Transaction

def toJson (tx : Transaction) : Value :=
  .record [("version", .ofWord32 tx.version), ("inputs", .array (tx.inputs.map Input.toJson)),
    ("outputs", .array (tx.outputs.map Output.toJson)), ("lock_time", .ofWord32 tx.lockTime)]

def ofJson? (value : Value) : Option Transaction :=
  match value.fields? ["version", "inputs", "outputs", "lock_time"] .allFields with
  | some [some version, some inputs, some outputs, some lockTime] => do
    return {
      version := <- version.word32?
      inputs := <- inputs.items? Input.ofJson?
      outputs := <- outputs.items? Output.ofJson?
      lockTime := <- lockTime.word32? }
  | _ => none

def render (tx : Transaction) : String :=
  tx.toJson.render

/-- The transaction that a JSON text denotes. -/
def parse? (text : String) : Option Transaction :=
  Json.Value.parse? text >>= ofJson?

end Transaction
end SpendRules

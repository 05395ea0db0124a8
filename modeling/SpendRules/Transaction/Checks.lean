import Std.Data.HashSet
import SpendRules.Failure
import SpendRules.Transaction

namespace SpendRules

/-!
# Checks of whole transactions

Two checks need no script.  The first looks at a transaction alone.  The second compares the
value that it spends with the value that it creates, and computes what is left as the fee.
Both report the first rule that is broken, in a fixed order.
-/

/-- The greatest amount of money that can exist. -/
def maxMoney : Nat := 21000000 * 100000000

def maxTransactionSize : Nat := 1000000

def minTransactionSize : Nat := 65

def minCoinbaseScriptSize : Nat := 2

def maxCoinbaseScriptSize : Nat := 100

/-- The rule that a transaction breaks. -/
inductive Objection where
  | emptyInputsOrOutputs
  | tooLarge (size : Nat)
  | tooSmall (size : Nat)
  | outputValue (value : Nat) (index : Nat)
  | totalOutputValue
  | invalidToken (index : Nat) (defect : TokenDefect)
  | tokenMarker (index : Nat)
  | duplicateInput
  | coinbaseScriptSize (size : Nat)
  | nullOutPoint (index : Nat)
  | missingOutput (index : Nat)
  | inputValue
  | insufficientInput
  deriving DecidableEq, Repr

def Objection.message : Objection -> String
  | .emptyInputsOrOutputs => "Empty inputs or outputs"
  | .tooLarge size => "Transaction too large: " ++ toString size ++ " bytes"
  | .tooSmall size => "Transaction too small: " ++ toString size ++ " bytes"
  | .outputValue value index =>
      "Invalid output value " ++ toString value ++ " at index " ++ toString index
  | .totalOutputValue => "Total output value out of range"
  | .invalidToken index defect =>
    "Invalid token at output " ++ toString index ++ ": " ++
      (CodecError.tokenEncodingInvalid defect).message
  | .tokenMarker index => "Output " ++ toString index ++ " script starts with the token prefix"
  | .duplicateInput => "Duplicate input"
  | .coinbaseScriptSize size => "Coinbase script size " ++ toString size ++ " out of range"
  | .nullOutPoint index => "Input " ++ toString index ++ " spends the null outpoint"
  | .missingOutput index => "Input " ++ toString index ++ " spends a missing output"
  | .inputValue => "Input value out of range"
  | .insufficientInput => "Insufficient input value"

namespace Transaction

/-- Add a value to a total, if both stay within the money that can exist. -/
def addMoney? (total value : Nat) : Option Nat :=
  if value ≤ maxMoney ∧ total + value ≤ maxMoney then some (total + value) else none

/-- The content of an output's script field is well formed: a valid token, or no marker in
front of the script. -/
def checkScriptField (index : Nat) (output : Output) : Except Objection Unit :=
  match output.token with
  | some token =>
    match token.validate with
    | .ok _ => .ok ()
    | .error defect => .error (.invalidToken index defect)
  | none =>
    if output.script.bytes.head? = some Token.marker then .error (.tokenMarker index) else .ok ()

def checkOutputs (total index : Nat) : List Output -> Except Objection Unit
  | [] => .ok ()
  | output :: outputs => do
    let value := output.value.toNat
    if value > maxMoney then .error (.outputValue value index)
    else if total + value > maxMoney then .error .totalOutputValue
    else
      checkScriptField index output
      checkOutputs (total + value) (index + 1) outputs

/-- Two of the references are the same, or one of them has been seen before. -/
def hasDuplicate (seen : Std.HashSet OutPoint) : List OutPoint -> Bool
  | [] => false
  | outPoint :: rest => seen.contains outPoint || hasDuplicate (seen.insert outPoint) rest

/-- The script of a transaction that creates money has an admitted length; other
transactions spend only references to outputs. -/
def checkNullOutPoints (tx : Transaction) : Except Objection Unit :=
  if tx.isCoinbase then
    let size := (tx.inputs.head?.map fun input => input.script.bytes.length).getD 0
    if minCoinbaseScriptSize ≤ size ∧ size ≤ maxCoinbaseScriptSize then .ok ()
    else .error (.coinbaseScriptSize size)
  else
    match tx.inputs.findIdx? fun input => input.prevout.isNull with
    | some index => .error (.nullOutPoint index)
    | none => .ok ()

def check (tx : Transaction) : Except Objection Unit := do
  if tx.inputs.isEmpty || tx.outputs.isEmpty then .error .emptyInputsOrOutputs
  else
    let size := format.size tx
    if size > maxTransactionSize then .error (.tooLarge size)
    else if size < minTransactionSize then .error (.tooSmall size)
    else
      checkOutputs 0 0 tx.outputs
      if hasDuplicate ∅ (tx.inputs.map Input.prevout) then .error .duplicateInput
      else checkNullOutPoints tx

/-- The total value of the spent outputs from an index on, given the total of those before. -/
def totalSpent (total index : Nat) : List Output -> Except Objection Nat
  | [] => .ok total
  | output :: outputs =>
    if !output.isPresent then .error (.missingOutput index)
    else
      match addMoney? total output.value.toNat with
      | some total => totalSpent total (index + 1) outputs
      | none => .error .inputValue

def totalCreated? (outputs : List Output) : Option Nat :=
  outputs.foldlM (fun total output => addMoney? total output.value.toNat) 0

/-- Why the values of a transaction were not checked. -/
inductive FeeError where
  /-- There is not one spent output for each input. -/
  | spentOutputCount (spent inputs : Nat)
  /-- A rule is broken. -/
  | refused (objection : Objection)
  deriving DecidableEq, Repr

/-- The report of a wrong number of spent outputs. -/
def spentOutputCountReport (spent inputs : Nat) : ConsensusError :=
  .transactionValidation
    (toString spent ++ " spent outputs supplied for " ++ toString inputs ++ " inputs")

/-- The value that is spent and not created again.  A transaction that creates money spends
nothing and has no fee. -/
def fee (tx : Transaction) (spent : List Output) : Except FeeError Nat :=
  if tx.isCoinbase then .ok 0
  else if spent.length ≠ tx.inputs.length then
    .error (.spentOutputCount spent.length tx.inputs.length)
  else
    match totalSpent 0 0 spent with
    | .error objection => .error (.refused objection)
    | .ok totalIn =>
      match totalCreated? tx.outputs with
      | none => .error (.refused .totalOutputValue)
      | some totalOut =>
        if totalIn < totalOut then .error (.refused .insufficientInput)
        else .ok (totalIn - totalOut)

end Transaction
end SpendRules

import SpendRules.Bytes
import SpendRules.Json.Value

namespace SpendRules
namespace Json

/-!
# Records in JSON

A record is written as an object with one member for each of its fields, in the order of the
fields.  It can be read from such an object in any order and with members that belong to no
field, which are ignored, and from an array that lists the fields.  A field that is given
twice is an error.
-/

/-- Whether an array may leave out fields at its end. -/
inductive Completeness where
  | allFields
  | leadingFields
  deriving DecidableEq, Repr

namespace Value

def given (members : List (Option String × Value)) (key : String) : List Value :=
  members.filterMap fun member => if member.1 = some key then some member.2 else none

/-- What a value gives for each of the named fields: a value, or nothing. -/
def fields? (names : List String) (completeness : Completeness) :
    Value -> Option (List (Option Value))
  | .array items =>
    let missing := names.length - items.length
    if items.length ≤ names.length ∧ (missing = 0 ∨ completeness = .leadingFields) then
      some (items.map some ++ List.replicate missing none)
    else none
  | .object members =>
    if members.all (fun member => member.1.isSome) &&
      names.all (fun name => (given members name).length ≤ 1) then
      some (names.map fun name => (given members name).head?)
    else none
  | _ => none

def record (members : List (String × Value)) : Value :=
  .object (members.map fun member => (some member.1, member.2))

def ofInt (value : Int) : Value :=
  .number (integerLiteral value)

/-- The integer between two bounds that a value denotes. -/
def intWithin? (low high : Int) : Value -> Option Int
  | .number literal =>
    match integer? literal with
    | some value => if low ≤ value ∧ value ≤ high then some value else none
    | none => none
  | _ => none

/-- The natural number below a bound that a value denotes. -/
def natBelow? (bound : Nat) (value : Value) : Option Nat :=
  (value.intWithin? 0 (bound - 1)).map Int.toNat

/-- The items of an array, each read in one way. -/
def items? {α : Type} (item? : Value -> Option α) : Value -> Option (List α)
  | .array items => items.mapM item?
  | _ => none

/-- Nothing for a value that is absent or null, else what the value denotes. -/
def optional? {α : Type} (item? : Value -> Option α) : Option Value -> Option (Option α)
  | none => some none
  | some .null => some none
  | some value => (item? value).map some

/-- A default for a value that is absent, else what the value denotes. -/
def withDefault? {α : Type} (default : α) (item? : Value -> Option α) : Option Value -> Option α
  | none => some default
  | some value => item? value

def ofOption {α : Type} (write : α -> Value) : Option α -> Value
  | some value => write value
  | none => .null

def ofBytes (bytes : Bytes) : Value :=
  .array (bytes.map fun byte => ofInt byte.toNat)

def bytes? : Value -> Option Bytes :=
  items? fun item => (item.natBelow? UInt8.size).map UInt8.ofNat

end Value
end Json
end SpendRules

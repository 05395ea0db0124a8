import SpendRules.Configuration
import SpendRules.Json.Record

namespace SpendRules

/-!
# Configuration as JSON

Both records write all their fields.  Reading them back, every field that is absent takes a
default of its own.  Together these are the defaults of the whole records.
-/

open Json

namespace Limits

def fieldNames : List String :=
  ["max_script_size", "max_element_size", "may2025_max_element_size", "max_ops", "max_stack_size",
    "max_pubkeys_per_multisig", "max_conditional_depth"]

def writeLimit (limit : UInt64) : Value :=
  .ofInt limit.toNat

def toJson (limits : Limits) : Value :=
  .record [("max_script_size", writeLimit limits.maxScriptSize),
    ("max_element_size", writeLimit limits.maxElementSize),
    ("may2025_max_element_size", writeLimit limits.may2025MaxElementSize),
    ("max_ops", writeLimit limits.maxOps),
    ("max_stack_size", writeLimit limits.maxStackSize),
    ("max_pubkeys_per_multisig", writeLimit limits.maxPubkeysPerMultisig),
    ("max_conditional_depth", writeLimit limits.maxConditionalDepth)]

/-! ### What stands for an absent limit -/

def defaultMaxScriptSize : UInt64 := 10000
def defaultMaxElementSize : UInt64 := 520
def defaultMay2025MaxElementSize : UInt64 := 10000
def defaultMaxOps : UInt64 := 201
def defaultMaxStackSize : UInt64 := 1000
def defaultMaxPubkeysPerMultisig : UInt64 := 20
def defaultMaxConditionalDepth : UInt64 := 100

/-- Limits of which nothing is said are those of which every field is absent. -/
theorem default_eq :
    ({} : Limits) =
      { maxScriptSize := defaultMaxScriptSize
        maxElementSize := defaultMaxElementSize
        may2025MaxElementSize := defaultMay2025MaxElementSize
        maxOps := defaultMaxOps
        maxStackSize := defaultMaxStackSize
        maxPubkeysPerMultisig := defaultMaxPubkeysPerMultisig
        maxConditionalDepth := defaultMaxConditionalDepth } := rfl

/-- A limit that may be absent. -/
def readLimit (default : UInt64) : Option Value -> Option UInt64 :=
  Value.withDefault? default fun value => (value.natBelow? UInt64.size).map UInt64.ofNat

def ofJson? (value : Value) : Option Limits :=
  match value.fields? fieldNames .leadingFields with
  | some [scriptSize, elementSize, laterElementSize, ops, stackSize, pubkeys, depth] => do
    return {
      maxScriptSize := <- readLimit defaultMaxScriptSize scriptSize
      maxElementSize := <- readLimit defaultMaxElementSize elementSize
      may2025MaxElementSize := <- readLimit defaultMay2025MaxElementSize laterElementSize
      maxOps := <- readLimit defaultMaxOps ops
      maxStackSize := <- readLimit defaultMaxStackSize stackSize
      maxPubkeysPerMultisig := <- readLimit defaultMaxPubkeysPerMultisig pubkeys
      maxConditionalDepth := <- readLimit defaultMaxConditionalDepth depth }
  | _ => none

end Limits

namespace Configuration

def fieldNames : List String := ["limits", "fork_id", "enabled_rules"]

def toJson (configuration : Configuration) : Value :=
  .record [("limits", configuration.limits.toJson),
    ("fork_id", .ofInt configuration.forkId.toNat),
    ("enabled_rules", .ofInt configuration.enabledRules.toNat)]

/-- The rules that may be asked for when their member is absent. -/
def defaultEnabledRules : UInt32 := Rule.allPublic

/-- A configuration of which nothing is said is one of which every field is absent. -/
theorem default_eq :
    ({} : Configuration) = { limits := {}, forkId := 0, enabledRules := defaultEnabledRules } := rfl

/-- A mask that may be absent. -/
def readMask (default : UInt32) : Option Value -> Option UInt32 :=
  Value.withDefault? default fun value => (value.natBelow? UInt32.size).map UInt32.ofNat

def ofJson? (value : Value) : Option Configuration :=
  match value.fields? fieldNames .leadingFields with
  | some [limits, forkId, enabledRules] => do
    return {
      limits := <- Value.withDefault? {} Limits.ofJson? limits
      forkId := <- readMask 0 forkId
      enabledRules := <- readMask defaultEnabledRules enabledRules }
  | _ => none

def render (configuration : Configuration) : String :=
  configuration.toJson.render

/-- Why a JSON text gives no configuration. -/
inductive TextFault where
  /-- The text is no JSON or not of the form of a configuration. -/
  | malformed
  | refused (fault : ConfigurationFault)
  deriving DecidableEq, Repr

/-- The configuration that a JSON text gives, if it obeys the rules. -/
def parse (text : String) : Except TextFault Configuration :=
  match Value.parse? text >>= ofJson? with
  | none => .error .malformed
  | some configuration =>
    match configuration.validated with
    | .ok configuration => .ok configuration
    | .error fault => .error (.refused fault)

end Configuration
end SpendRules

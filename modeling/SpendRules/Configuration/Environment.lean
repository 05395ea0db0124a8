import SpendRules.Configuration
import SpendRules.Text.Digits

namespace SpendRules
namespace Configuration

/-!
# Configuration from the environment

A variable of the environment can replace one default.  Variables are read in a fixed order,
and the first one that does not parse is reported.  Masks may be written in hexadecimal
after `0x`.
-/

abbrev Environment := String -> Option String

/-- A number that lies below a bound. -/
private def below? (bound : Nat) (number? : Option Nat) : Option Nat :=
  number?.filter fun number => decide (number < bound)

/-- A mask: decimal, or hexadecimal after its mark. -/
def mask? (text : String) : Option Nat :=
  match text.toList with
  | '0' :: 'x' :: digits => below? UInt32.size (Text.unsigned? 16 digits)
  | digits => below? UInt32.size (Text.unsigned? 10 digits)

def size? (text : String) : Option Nat :=
  below? UInt64.size (Text.unsigned? 10 text.toList)

/-- A variable, how its text is read, and the field it replaces. -/
structure Variable where
  name : String
  read? : String -> Option Nat
  assign : Configuration -> Nat -> Configuration

private def onLimits (assign : Limits -> UInt64 -> Limits) (configuration : Configuration)
    (value : Nat) : Configuration :=
  { configuration with limits := assign configuration.limits (UInt64.ofNat value) }

def knownVariables : List Variable :=
  [⟨"CASH_CONSENSUS_FORK_ID", mask?, fun configuration value =>
      { configuration with forkId := UInt32.ofNat value }⟩,
    ⟨"CASH_CONSENSUS_ENABLED_RULES", mask?, fun configuration value =>
      { configuration with enabledRules := UInt32.ofNat value }⟩,
    ⟨"CASH_CONSENSUS_MAX_SCRIPT_SIZE", size?, onLimits fun limits value =>
      { limits with maxScriptSize := value }⟩,
    ⟨"CASH_CONSENSUS_MAX_ELEMENT_SIZE", size?, onLimits fun limits value =>
      { limits with maxElementSize := value }⟩,
    ⟨"CASH_CONSENSUS_MAY2025_MAX_ELEMENT_SIZE", size?, onLimits fun limits value =>
      { limits with may2025MaxElementSize := value }⟩,
    ⟨"CASH_CONSENSUS_MAX_OPS", size?, onLimits fun limits value =>
      { limits with maxOps := value }⟩,
    ⟨"CASH_CONSENSUS_MAX_STACK_SIZE", size?, onLimits fun limits value =>
      { limits with maxStackSize := value }⟩,
    ⟨"CASH_CONSENSUS_MAX_PUBKEYS_PER_MULTISIG", size?, onLimits fun limits value =>
      { limits with maxPubkeysPerMultisig := value }⟩,
    ⟨"CASH_CONSENSUS_MAX_CONDITIONAL_DEPTH", size?, onLimits fun limits value =>
      { limits with maxConditionalDepth := value }⟩]

/-- Replace one field if its variable is set. -/
def override (environment : Environment) (configuration : Configuration) (replaced : Variable) :
    Except ConfigurationFault Configuration :=
  match environment replaced.name with
  | none => .ok configuration
  | some text =>
    match replaced.read? text with
    | some value => .ok (replaced.assign configuration value)
    | none => .error (.unparsable replaced.name text)

/-- The defaults with the fields of all set variables replaced. -/
def ofEnvironment (environment : Environment) : Except ConfigurationFault Configuration := do
  let configuration <- knownVariables.foldlM (override environment) {}
  configuration.validated

end Configuration
end SpendRules

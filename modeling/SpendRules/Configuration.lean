import SpendRules.Failure
import SpendRules.Rules
import SpendRules.Text.Quoted

namespace SpendRules

/-!
# Configuration

The limits of script evaluation, the chain that signatures commit to, and the rules that may
be asked for.  All of them are plain data with defaults.  Not every configuration makes
sense: `Configuration.validate` tells.
-/

/-- The resource limits of one script evaluation. -/
structure Limits where
  maxScriptSize : UInt64 := 10000
  maxElementSize : UInt64 := 520
  /-- The greatest element size once work is metered. -/
  may2025MaxElementSize : UInt64 := 10000
  /-- The greatest number of counted operations while work is not metered. -/
  maxOps : UInt64 := 201
  /-- The greatest number of elements on both stacks together. -/
  maxStackSize : UInt64 := 1000
  maxPubkeysPerMultisig : UInt64 := 20
  /-- The greatest nesting of branches once work is metered. -/
  maxConditionalDepth : UInt64 := 100
  deriving DecidableEq, Repr

structure Configuration where
  limits : Limits := {}
  /-- The number of the chain that signatures commit to. -/
  forkId : UInt32 := 0
  /-- The public mask of the rules that callers may ask for; other rules stay inactive. -/
  enabledRules : UInt32 := Rule.allPublic
  deriving DecidableEq, Repr

/-- Why a configuration is refused. -/
inductive ConfigurationFault where
  | elementLimitsReversed
  | zeroLimit
  | forkIdTooLarge
  | unparsable (name value : String)
  deriving DecidableEq, Repr

def ConfigurationFault.message : ConfigurationFault -> String
  | .elementLimitsReversed => "max_element_size exceeds may2025_max_element_size"
  | .zeroLimit => "stack and script limits must be non-zero"
  | .forkIdTooLarge => "fork_id must fit in 24 bits"
  | .unparsable name value => name ++ " has unparsable value " ++ Text.quoted value

def ConfigurationFault.report (fault : ConfigurationFault) : ConsensusError :=
  .configuration fault.message

namespace Configuration

/-- The rules that every configuration obeys before it is used. -/
def validate (configuration : Configuration) : Except ConfigurationFault Unit :=
  let limits := configuration.limits
  if limits.maxElementSize > limits.may2025MaxElementSize then .error .elementLimitsReversed
  else if limits.maxStackSize = 0 ∨ limits.maxScriptSize = 0 then .error .zeroLimit
  else if configuration.forkId > 0x00ffffff then .error .forkIdTooLarge
  else .ok ()

/-- A configuration that obeys the rules. -/
def validated (configuration : Configuration) : Except ConfigurationFault Configuration := do
  configuration.validate
  return configuration

/-- The rules of a public mask that the configuration lets through. -/
def activeRules (configuration : Configuration) (flags : UInt32) : RuleSet :=
  RuleSet.ofEnabledFlags flags configuration.enabledRules

end Configuration

end SpendRules

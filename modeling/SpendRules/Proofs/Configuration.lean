import SpendRules.Configuration.Record
import SpendRules.Proofs.Json.Record

namespace SpendRules

/-!
# Configurations as text

A configuration is read back from its text, whatever its fields are, unless it breaks
the rules for configurations.  Members can be deleted from the text, from the outer
object and from the one of the limits.  What is read then is the configuration with
exactly the fields of these members at their defaults.
-/

open Json

namespace Limits

/-- The limits with the fields of some keys at their defaults. -/
def withDefaults (deleted : List String) (limits : Limits) : Limits :=
  let default : Limits := {}
  { maxScriptSize :=
      if "max_script_size" ∈ deleted then default.maxScriptSize else limits.maxScriptSize
    maxElementSize :=
      if "max_element_size" ∈ deleted then default.maxElementSize else limits.maxElementSize
    may2025MaxElementSize :=
      if "may2025_max_element_size" ∈ deleted then default.may2025MaxElementSize
      else limits.may2025MaxElementSize
    maxOps := if "max_ops" ∈ deleted then default.maxOps else limits.maxOps
    maxStackSize := if "max_stack_size" ∈ deleted then default.maxStackSize else limits.maxStackSize
    maxPubkeysPerMultisig :=
      if "max_pubkeys_per_multisig" ∈ deleted then default.maxPubkeysPerMultisig
      else limits.maxPubkeysPerMultisig
    maxConditionalDepth :=
      if "max_conditional_depth" ∈ deleted then default.maxConditionalDepth
      else limits.maxConditionalDepth }

theorem isWellFormed_toJson (limits : Limits) : limits.toJson.IsWellFormed := by
  refine Value.isWellFormed_record ?_
  simp only [List.forall_mem_cons, writeLimit, Value.isWellFormed_ofInt, true_and]
  exact nofun

private theorem readLimit_unless (absent : Prop) [Decidable absent] (default limit : UInt64) :
    readLimit default (if absent then none else some (writeLimit limit)) =
      some (if absent then default else limit) := by
  refine Value.withDefault_unless absent default ?_
  rw [writeLimit, Value.natBelow_ofInt limit.toNat_lt, Option.map_some, UInt64.ofNat_toNat]

/-- Of limits, exactly the deleted ones are read as their defaults. -/
theorem ofJson_without (limits : Limits) (deleted : List String) :
    ofJson? (limits.toJson.without deleted) = some (limits.withDefaults deleted) := by
  rw [ofJson?, toJson, Value.fields_without (by decide : fieldNames.Nodup) rfl]
  simp only [List.map_cons, List.map_nil, readLimit_unless]
  rw [withDefaults, default_eq]
  rfl

end Limits

namespace Configuration

/-- The configuration with the fields of some keys at their defaults, and with those of
some keys of the limits at theirs. -/
def withDefaults (deleted deletedLimits : List String) (configuration : Configuration) :
    Configuration :=
  let default : Configuration := {}
  { limits :=
      if "limits" ∈ deleted then default.limits
      else configuration.limits.withDefaults deletedLimits
    forkId := if "fork_id" ∈ deleted then default.forkId else configuration.forkId
    enabledRules :=
      if "enabled_rules" ∈ deleted then default.enabledRules else configuration.enabledRules }

/-- The document of a configuration without members of some keys, and without those of
some keys of its limits. -/
def documentWithout (deleted deletedLimits : List String) (configuration : Configuration) : Value :=
  (configuration.toJson.mapMember "limits" fun limits => limits.without deletedLimits).without
    deleted

section

variable (deleted deletedLimits : List String) (configuration : Configuration)

private theorem readMask_unless (absent : Prop) [Decidable absent] (default mask : UInt32) :
    readMask default (if absent then none else some (.ofInt mask.toNat)) =
      some (if absent then default else mask) := by
  refine Value.withDefault_unless absent default ?_
  rw [Value.natBelow_ofInt mask.toNat_lt, Option.map_some, UInt32.ofNat_toNat]

private theorem mapMember_toJson (change : Value -> Value) :
    configuration.toJson.mapMember "limits" change =
      .record [("limits", change configuration.limits.toJson),
        ("fork_id", .ofInt configuration.forkId.toNat),
        ("enabled_rules", .ofInt configuration.enabledRules.toNat)] := rfl

/-- What was deleted, and nothing else, is read as its default. -/
theorem ofJson_documentWithout :
    ofJson? (configuration.documentWithout deleted deletedLimits) =
      some (configuration.withDefaults deleted deletedLimits) := by
  rw [ofJson?, documentWithout, mapMember_toJson,
    Value.fields_without (by decide : fieldNames.Nodup) rfl]
  simp only [List.map_cons, List.map_nil, readMask_unless,
    Value.withDefault_unless _ _ (configuration.limits.ofJson_without deletedLimits)]
  rw [withDefaults, default_eq]
  rfl

theorem isWellFormed_documentWithout :
    (configuration.documentWithout deleted deletedLimits).IsWellFormed := by
  rw [documentWithout, mapMember_toJson]
  refine Value.isWellFormed_without (Value.isWellFormed_record ?_) deleted
  simp only [List.forall_mem_cons, Value.isWellFormed_ofInt, true_and]
  exact ⟨Value.isWellFormed_without configuration.limits.isWellFormed_toJson deletedLimits, nofun⟩

private theorem documentWithout_nil :
    configuration.documentWithout [] [] = configuration.toJson := by
  rw [documentWithout, mapMember_toJson, Value.without_nil, Value.without_nil]
  rfl

theorem isWellFormed_toJson : configuration.toJson.IsWellFormed :=
  documentWithout_nil configuration ▸ isWellFormed_documentWithout [] [] configuration

/-- A configuration is read from its document. -/
theorem ofJson_toJson : ofJson? configuration.toJson = some configuration :=
  documentWithout_nil configuration ▸ ofJson_documentWithout [] [] configuration

end

/-- What a text gives depends only on the configuration that is read from it. -/
private theorem parse_of_ofJson {configuration : Configuration} {document : Value}
    (wellFormed : document.IsWellFormed) (read : ofJson? document = some configuration) :
    parse document.render =
      match configuration.validate with
      | .ok () => .ok configuration
      | .error fault => .error (.refused fault) := by
  rw [parse, Value.parse_render wellFormed, Option.bind_eq_bind, Option.bind_some, read]
  dsimp only
  rw [validated]
  cases configuration.validate <;> rfl

/-- A configuration that obeys the rules is read back from its text, and any other is
refused.  Without some of its members, the text gives what that of the configuration
gives which has exactly these fields at their defaults. -/
theorem parse_documentWithout (configuration : Configuration) :
    parse configuration.render =
        (match configuration.validate with
        | .ok () => .ok configuration
        | .error fault => .error (.refused fault)) ∧
      forall deleted deletedLimits,
        parse (configuration.documentWithout deleted deletedLimits).render =
          parse (configuration.withDefaults deleted deletedLimits).render := by
  refine ⟨parse_of_ofJson configuration.isWellFormed_toJson configuration.ofJson_toJson, ?_⟩
  intro deleted deletedLimits
  have read := parse_of_ofJson (configuration.isWellFormed_documentWithout deleted deletedLimits)
    (configuration.ofJson_documentWithout deleted deletedLimits)
  rw [read, render, parse_of_ofJson (isWellFormed_toJson _) (ofJson_toJson _)]

/-- One limit is all that the text has to say. -/
example :
    (({ limits := { maxOps := 50 } } : Configuration).documentWithout ["fork_id", "enabled_rules"]
      (Limits.fieldNames.erase "max_ops")).render =
        "\x7b\"limits\":\x7b\"max_ops\":50\x7d\x7d" := by
  decide +kernel

end Configuration
end SpendRules

import SpendRules.Proofs.Json.Record

namespace SpendRules
namespace Json

/-!
# Forms that lose nothing

Values of a type are written as JSON in a lossless form when each of them is read back
from what was written for it.  Machine words have such a form.  Lists and optional
values have one when their items have, but an item that is written as nothing at all
could not be told from a missing one.  The fields of a record are found again under
their names, so its form is as lossless as those of its fields.
-/

/-- Every value is written as well-formed JSON, and read back from it. -/
structure Lossless {α : Type} (write : α -> Value) (item? : Value -> Option α) : Prop where
  isWellFormed : forall value, (write value).IsWellFormed
  reads : forall value, item? (write value) = some value

namespace Value

theorem isWellFormed_string (text : Option String) : (string text).IsWellFormed := by
  intro literal found
  cases List.mem_singleton.mp found

/-- A record gives each of its fields. -/
theorem fields_record {members : List (String × Value)} (names : List String)
    (distinct : names.Nodup) (keys : members.map Prod.fst = names) (completeness : Completeness) :
    (record members).fields? names completeness =
      some (members.map fun member => some member.2) := by
  have found := fields_without distinct keys [] completeness
  rw [without_nil] at found
  simpa using found

end Value

namespace Lossless

/-- Numbers below a bound are a lossless form of what they count. -/
theorem ofNat {α : Type} {bound : Nat} {toNat : α -> Nat} {ofNat : Nat -> α}
    (below : forall value, toNat value < bound)
    (inverse : forall value, ofNat (toNat value) = value) :
    Lossless (fun value => .ofInt (toNat value)) fun written =>
      (written.natBelow? bound).map ofNat where
  isWellFormed value := Value.isWellFormed_ofInt (toNat value)
  reads value := by
    rw [Value.natBelow_ofInt (below value), Option.map_some, inverse]

variable {α : Type} {write : α -> Value} {item? : Value -> Option α} (form : Lossless write item?)

include form

theorem list : Lossless (fun values => .array (values.map write)) (Value.items? item?) where
  isWellFormed values := by
    refine Value.isWellFormed_array_iff.mpr fun written found => ?_
    rcases List.mem_map.mp found with ⟨value, _, rfl⟩
    exact form.isWellFormed value
  reads values := by
    change (values.map write).mapM item? = some values
    induction values with
    | nil => rfl
    | cons value values inductionHypothesis =>
        rw [List.map_cons, List.mapM_cons, form.reads, inductionHypothesis]
        rfl

/-- A value that may be missing is null where it is, provided that no value that is
there is written as null. -/
theorem option (given : forall value, write value ≠ .null) :
    Lossless (Value.ofOption write) fun written => Value.optional? item? (some written) where
  isWellFormed value := by
    cases value with
    | none =>
        intro literal found
        cases List.mem_singleton.mp found
    | some value => exact form.isWellFormed value
  reads value := by
    cases value with
    | none => rfl
    | some value =>
        have reads := form.reads value
        have given := given value
        rw [Value.ofOption]
        cases written : write value with
        | null => exact absurd written given
        | _ =>
            rw [written] at reads
            exact congrArg (Option.map some) reads

/-- A value is read back from the text of its form. -/
theorem parse_render (value : α) : (Value.parse? (write value).render >>= item?) = some value := by
  rw [Value.parse_render (form.isWellFormed value), Option.bind_eq_bind,
    Option.bind_some, form.reads]

end Lossless

theorem lossless_bytes : Lossless Value.ofBytes Value.bytes? :=
  (Lossless.ofNat UInt8.toNat_lt fun _ => UInt8.ofNat_toNat).list

end Json
end SpendRules

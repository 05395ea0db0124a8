import Mathlib.Data.List.Nodup
import SpendRules.Json.Record
import SpendRules.Proofs.Json.Value

namespace SpendRules
namespace Json
namespace Value

/-!
# Records with members left out

Members can be deleted from a record.  Of the fields that are read then, those of the
deleted members are absent, and the others are as they were.  This needs keys that do
not repeat.
-/

/-- The members that do not have one of the keys. -/
def undeleted (deleted : List String) (members : List (Option String × Value)) :
    List (Option String × Value) :=
  members.filter fun member => member.1.all fun key => !deleted.contains key

/-- The object without the members that have one of the keys. -/
def without (deleted : List String) : Value -> Value
  | object members => object (undeleted deleted members)
  | value => value

/-- The object with its members of one key changed. -/
def mapMember (key : String) (change : Value -> Value) : Value -> Value
  | object members =>
      object (members.map fun member =>
        if member.1 = some key then (member.1, change member.2) else member)
  | value => value

theorem without_nil (value : Value) : value.without [] = value := by
  cases value with
  | object members =>
      refine congrArg object (List.filter_eq_self.mpr fun member _ => ?_)
      cases member.1 <;> rfl
  | _ => rfl

theorem isWellFormed_without {value : Value} (wellFormed : value.IsWellFormed)
    (deleted : List String) :
    (value.without deleted).IsWellFormed := by
  cases value with
  | object members =>
      rw [isWellFormed_object_iff] at wellFormed
      exact isWellFormed_object_iff.mpr fun member listed =>
        wellFormed member (List.mem_filter.mp listed).1
  | _ => exact wellFormed

/-! ## Integers -/

theorem isWellFormed_ofInt (value : Int) : (ofInt value).IsWellFormed := by
  intro literal found
  cases List.mem_singleton.mp found
  exact isNumber_integerLiteral value

theorem intWithin_ofInt {low high value : Int} (above : low ≤ value) (below : value ≤ high) :
    (ofInt value).intWithin? low high = some value := by
  rw [ofInt, intWithin?, integer_integerLiteral]
  exact if_pos ⟨above, below⟩

theorem natBelow_ofInt {bound value : Nat} (below : value < bound) :
    (ofInt value).natBelow? bound = some value := by
  rw [natBelow?, intWithin_ofInt (Int.natCast_nonneg value) (by omega)]
  rfl

/-! ## Fields -/

/-- A value that may be absent is the default exactly where it is. -/
theorem withDefault_unless {α : Type} {item? : Value -> Option α} {value : Value} {denoted : α}
    (absent : Prop) [Decidable absent] (default : α) (reads : item? value = some denoted) :
    withDefault? default item? (if absent then none else some value) =
      some (if absent then default else denoted) := by
  by_cases holds : absent
  · rw [if_pos holds, if_pos holds]
    rfl
  · rw [if_neg holds, if_neg holds]
    exact reads

private theorem given_cons (first : Option String × Value) (rest : List (Option String × Value))
    (key : String) :
    given (first :: rest) key = if first.1 = some key then first.2 :: given rest key
      else given rest key := by
  unfold given
  rw [List.filterMap_cons]
  by_cases same : first.1 = some key
  · rw [if_pos same, if_pos same]
  · rw [if_neg same, if_neg same]

/-- A key gives what it gave, unless it was deleted. -/
private theorem given_undeleted (deleted : List String) (members : List (Option String × Value))
    (key : String) :
    given (undeleted deleted members) key = if key ∈ deleted then [] else given members key := by
  have stays {member : Option String × Value} (same : member.1 = some key) :
      (member.1.all fun key => !deleted.contains key) = !decide (key ∈ deleted) := by
    rw [same, Option.all_some, List.contains_eq_mem]
  unfold given undeleted
  rw [List.filterMap_filter]
  by_cases gone : key ∈ deleted
  · rw [if_pos gone, List.filterMap_eq_nil_iff]
    intro member _
    by_cases same : member.1 = some key
    · rw [stays same, decide_eq_true gone]
      rfl
    · rw [if_neg same, ite_self]
  · rw [if_neg gone]
    refine List.filterMap_congr fun member _ => ?_
    by_cases same : member.1 = some key
    · rw [stays same, decide_eq_false gone]
      rfl
    · rw [if_neg same, ite_self]

private theorem fields_object {members : List (Option String × Value)} {names : List String}
    (completeness : Completeness)
    (keyed : forall member, member ∈ members -> member.1.isSome = true)
    (once : forall name, name ∈ names -> (given members name).length ≤ 1) :
    (object members).fields? names completeness =
      some (names.map fun name => (given members name).head?) := by
  rw [fields?, if_pos]
  rw [Bool.and_eq_true, List.all_eq_true, List.all_eq_true]
  exact ⟨keyed, fun name listed => decide_eq_true (once name listed)⟩

section

variable {members : List (String × Value)}

theorem isWellFormed_record
    (wellFormed : forall member, member ∈ members -> member.2.IsWellFormed) :
    (record members).IsWellFormed := by
  refine isWellFormed_object_iff.mpr fun _ found => ?_
  rcases List.mem_map.mp found with ⟨member, listed, rfl⟩
  exact wellFormed member listed

/-- Where keys do not repeat, the key of a member gives its value. -/
private theorem given_of_nodup (distinct : (members.map Prod.fst).Nodup) {member : String × Value}
    (listed : member ∈ members) :
    given (members.map fun member => (some member.1, member.2)) member.1 = [member.2] := by
  induction members with
  | nil => cases listed
  | cons first rest inductionHypothesis =>
      rw [List.map_cons, List.nodup_cons] at distinct
      rw [List.map_cons, given_cons]
      rcases List.mem_cons.mp listed with rfl | later
      · rw [if_pos rfl, List.cons_inj_right, given, List.filterMap_eq_nil_iff]
        intro _ found
        rcases List.mem_map.mp found with ⟨other, later, rfl⟩
        refine if_neg fun same => distinct.1 ?_
        rw [← Option.some.inj same]
        exact List.mem_map_of_mem later
      · have differs : ¬ some first.1 = some member.1 := by
          intro same
          refine distinct.1 ?_
          rw [Option.some.inj same]
          exact List.mem_map_of_mem later
        rw [if_neg differs]
        exact inductionHypothesis distinct.2 later

/-- The fields of a record of which members were deleted. -/
theorem fields_without {names : List String} (distinct : names.Nodup)
    (keys : members.map Prod.fst = names) (deleted : List String) (completeness : Completeness) :
    ((record members).without deleted).fields? names completeness =
      some (members.map fun member => if member.1 ∈ deleted then none else some member.2) := by
  subst keys
  have left {member : String × Value} (listed : member ∈ members) :
      given (undeleted deleted (members.map fun member => (some member.1, member.2))) member.1 =
        if member.1 ∈ deleted then [] else [member.2] := by
    rw [given_undeleted, given_of_nodup distinct listed]
  rw [record, without, fields_object, List.map_map]
  · refine congrArg some (List.map_congr_left fun member listed => ?_)
    rw [Function.comp_apply, left listed]
    split <;> rfl
  · intro _ found
    rcases List.mem_map.mp (List.mem_filter.mp found).1 with ⟨_, _, rfl⟩
    rfl
  · intro _ found
    rcases List.mem_map.mp found with ⟨member, listed, rfl⟩
    rw [left listed]
    split
    · exact Nat.zero_le 1
    · exact Nat.le_refl 1

end

end Value
end Json
end SpendRules

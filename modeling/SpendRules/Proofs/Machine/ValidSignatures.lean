import SpendRules.Proofs.Machine.Comparison

namespace SpendRules
namespace Interpreter

/-!
# Valid signatures

Whether a signature of the transaction is valid for a key depends on the script
code, on the context and on the verifier.  It does not depend on the machine that
asks, and of a machine that has asked only the record of calls is changed.
-/

/-- Some check of the signature finds it valid. -/
def IsValid (vm : Interpreter) (code : Script) (signature key : Bytes) : Prop :=
  (vm.checkSignature signature key code).Yields true

variable {vm : Interpreter} {code : Script} {signature key : Bytes} {machine after : Machine}
  {valid : Bool}

/-- From every machine, a check of a signature fails alike, or it has the same
answer and makes the same calls. -/
private theorem checkSignature_cases (vm : Interpreter) (signature key : Bytes) (code : Script) :
    (∃ failure, forall machine,
        vm.checkSignature signature key code machine = .error failure machine) ∨
      ∃ valid made, forall machine,
        vm.checkSignature signature key code machine =
          .ok valid { machine with calls := made ++ machine.calls } := by
  unfold checkSignature
  cases signature.getLast? with
  | none => exact Or.inr ⟨false, [], fun _ => rfl⟩
  | some hashByte =>
      unfold demandContext
      cases vm.context with
      | none => exact Or.inl ⟨.contextUnavailable, fun _ => rfl⟩
      | some context =>
          simp only [pure_bind]
          cases SigHash.digest context code (vm.hashTypeOf hashByte) vm.rules with
          | error failure => exact Or.inl ⟨failure, fun _ => rfl⟩
          | ok digest =>
              let query : SignatureQuery :=
                { scheme := .ofSignature signature.dropLast, key := key,
                  signature := signature.dropLast, digest := digest }
              cases answer : vm.verifier query with
              | ok valid =>
                  refine Or.inr ⟨valid, [{ query := query, answer := .ok valid }],
                    fun machine => ?_⟩
                  change vm.ask query machine = _
                  rw [ask, answer]
                  rfl
              | error failure =>
                  refine Or.inr ⟨false, [{ query := query, answer := .error failure }],
                    fun machine => ?_⟩
                  change vm.ask query machine = _
                  rw [ask, answer]
                  rfl

theorem isValid_iff (checked : vm.checkSignature signature key code machine = .ok valid after) :
    vm.IsValid code signature key ↔ valid = true := by
  constructor
  · rintro ⟨state, other, found⟩
    rcases checkSignature_cases vm signature key code with
      ⟨failure, fails⟩ | ⟨answer, made, answers⟩
    · rw [fails] at checked
      cases checked
    · rw [answers] at checked found
      cases checked
      cases found
      rfl
  · rintro rfl
    exact ⟨machine, after, checked⟩

theorem IsValid.checkSignature (isValid : vm.IsValid code signature key) (machine : Machine) :
    ∃ after, vm.checkSignature signature key code machine = .ok true after := by
  rcases isValid with ⟨state, other, found⟩
  rcases checkSignature_cases vm signature key code with ⟨failure, fails⟩ | ⟨answer, made, answers⟩
  · rw [fails] at found
    cases found
  · rw [answers] at found
    cases found
    exact ⟨_, answers machine⟩

theorem stack_of_checkSignature
    (checked : vm.checkSignature signature key code machine = .ok valid after) :
    after.stack = machine.stack := by
  rcases checkSignature_cases vm signature key code with ⟨failure, fails⟩ | ⟨answer, made, answers⟩
  · rw [fails] at checked
    cases checked
  · rw [answers] at checked
    cases checked
    rfl

/-! ## A verifier for examples -/

/-- A transaction with one input. -/
private def mirroredSpending : Transaction where
  version := 2
  inputs :=
    [{ prevout := { hash := Hash256.zero, index := 0 }, script := { bytes := [] }, sequence := 0 }]
  outputs := []
  lockTime := 0

/-- An interpreter without rules whose verifier accepts each key as its own
signature. -/
def mirroringInterpreter : Interpreter where
  rules := .empty
  verifier query := .ok (query.signature == query.key)
  context := some
    { tx := mirroredSpending
      index := 0
      input := _
      input_eq := rfl
      spent := Output.plain 5 { bytes := [] }
      allSpent := none
      allSpent_eq := nofun }

end Interpreter
end SpendRules

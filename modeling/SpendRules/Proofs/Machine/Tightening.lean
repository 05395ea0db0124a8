import SpendRules.Proofs.Machine.SignatureChecks
import SpendRules.Proofs.Script.Number
import SpendRules.Proofs.Signature.Encoding

namespace SpendRules

namespace Interpreter

/-!
# Running under stricter rules

The same script is run under two sets of rules, one of which tightens the
other.  At each place where a rule is looked up, the stricter run either does
the same or fails.  There is one exception: an operation that checks a lock
time does something under the stricter rules and nothing under the looser ones.
But it leaves the machine as it was whenever it succeeds, so its successes are
successes of doing nothing.
-/

/-- The interpreter under other rules. -/
def withRules (vm : Interpreter) (rules : RuleSet) : Interpreter :=
  { vm with rules := rules }

theorem rules_withRules (vm : Interpreter) (rules : RuleSet) :
    (vm.withRules rules).rules = rules := rfl

/-- Checking a lock time only looks at the machine. -/
theorem checkLockTime_keeps (vm : Interpreter) :
    (Comparison.keeping fun machine => machine).holds vm.checkLockTime vm.checkLockTime := by
  let c := Comparison.keeping fun machine => machine
  have reserved : c.holds vm.reservedForUpgrade vm.reservedForUpgrade :=
    c.ite (c.throw _ rfl) c.unit
  exact checkLockTime_holds c (contextsAlike_of_eq c rfl) (lockTimeOperand_self c vm) reserved rfl

theorem checkSequence_keeps (vm : Interpreter) :
    (Comparison.keeping fun machine => machine).holds vm.checkSequence vm.checkSequence := by
  let c := Comparison.keeping fun machine => machine
  have reserved : c.holds vm.reservedForUpgrade vm.reservedForUpgrade :=
    c.ite (c.throw _ rfl) c.unit
  exact checkSequence_holds c (contextsAlike_of_eq c rfl) (lockTimeOperand_self c vm) reserved rfl

/-- What leaves the machine as it was succeeds no more often than nothing. -/
private theorem admission_unit {step second : Step Unit}
    (keeps : (Comparison.keeping fun machine => machine).holds step second) :
    Comparison.admission.holds step (pure ()) := by
  intro state value after success
  have unchanged : after = state := keeps state value after success
  rw [unchanged]
  rfl

/-- Without a rule against them, operations reserved for upgrades do nothing. -/
private theorem reservedForUpgrade_eq {vm : Interpreter}
    (permitted : vm.rules.enables .discourageUpgradableNops = false) :
    vm.reservedForUpgrade = pure () := by
  have inactive : vm.enables .discourageUpgradableNops = false := permitted
  rw [reservedForUpgrade, inactive, if_neg Bool.false_ne_true]

section

variable {vm : Interpreter} {rules : RuleSet} (tightens : rules.Tightens vm.rules)

include tightens

private theorem alike_of_tightens : Alike (vm.withRules rules) vm where
  limits := rfl
  hashes := rfl
  isMetered := tightens.enables_eq (by decide)
  unlockingLength := rfl

private theorem numberBounds_of_tightens : (vm.withRules rules).numberBounds = vm.numberBounds := by
  have integers64 : (vm.withRules rules).enables .integers64 = vm.enables .integers64 :=
    tightens.enables_eq (by decide)
  unfold numberBounds
  rw [(alike_of_tightens tightens).isMetered, (alike_of_tightens tightens).limits, integers64]

private theorem decode_of_tightens (element : Bytes) (maxLength : Nat) :
    Comparison.admission.holds
      (Step.ofExcept (ScriptNumber.decode element
        ((vm.withRules rules).enables .minimalData) maxLength))
      (Step.ofExcept (ScriptNumber.decode element (vm.enables .minimalData) maxLength)) := by
  apply Comparison.admission_ofExcept
  intro number decoded
  rw [ScriptNumber.decode_eq_ok_iff] at decoded ⊢
  exact ⟨decoded.1, fun active => decoded.2.1 (tightens.keeps _ active), decoded.2.2⟩

private theorem computesAlike_of_tightens :
    ComputesAlike Comparison.admission (vm.withRules rules) vm where
  toWorksAlike := by
    refine .of_refl rfl (alike_of_tightens tightens) Comparison.admission_refl fun element => ?_
    unfold operand
    rw [numberBounds_of_tightens tightens]
    exact decode_of_tightens tightens element _
  integers64 := tightens.enables_eq (by decide)

private theorem reservedForUpgrade_of_tightens :
    Comparison.admission.holds (vm.withRules rules).reservedForUpgrade vm.reservedForUpgrade :=
  Comparison.admission_unless (tightens.keeps _) (Comparison.admission_refl _)

private theorem lockTimeOperand_of_tightens :
    Comparison.admission.holds (vm.withRules rules).lockTimeOperand vm.lockTimeOperand :=
  lockTimeOperand_holds _ fun element => decode_of_tightens tightens element _

/-- An operation that a rule gives a meaning to either has it in both
interpreters, or checks under the stricter rules what the looser ones let
pass. -/
private theorem lockTime_of_tightens (rule : Rule) (lockTime : rule ∈ Rule.lockTimes)
    (check : Interpreter -> Step Unit)
    (active : (vm.withRules rules).enables rule = vm.enables rule ->
      Comparison.admission.holds (check (vm.withRules rules)) (check vm))
    (inactive : vm.enables rule = false -> check vm = vm.reservedForUpgrade)
    (keeps : (Comparison.keeping fun machine => machine).holds (check (vm.withRules rules))
      (check (vm.withRules rules))) :
    Comparison.admission.holds (check (vm.withRules rules)) (check vm) := by
  rcases tightens.lockTime_eq rule lockTime with same | ⟨_, unset, permitted⟩
  · exact active same
  · rw [inactive unset, reservedForUpgrade_eq permitted]
    exact admission_unit keeps

private theorem checkLockTime_of_tightens :
    Comparison.admission.holds (vm.withRules rules).checkLockTime vm.checkLockTime := by
  refine lockTime_of_tightens tightens .checkLockTime (by decide) checkLockTime ?_ ?_
    (checkLockTime_keeps _)
  · intro same
    exact checkLockTime_holds _ (contextsAlike_of_eq _ rfl) (lockTimeOperand_of_tightens tightens)
      (reservedForUpgrade_of_tightens tightens) same
  · intro unset
    rw [checkLockTime, unset, if_neg Bool.false_ne_true]

private theorem checkSequence_of_tightens :
    Comparison.admission.holds (vm.withRules rules).checkSequence vm.checkSequence := by
  refine lockTime_of_tightens tightens .checkSequence (by decide) checkSequence ?_ ?_
    (checkSequence_keeps _)
  · intro same
    exact checkSequence_holds _ (contextsAlike_of_eq _ rfl) (lockTimeOperand_of_tightens tightens)
      (reservedForUpgrade_of_tightens tightens) same
  · intro unset
    rw [checkSequence, unset, if_neg Bool.false_ne_true]

private theorem corresponds_of_tightens :
    Corresponds Comparison.admission (vm.withRules rules) vm := by
  have alike := computesAlike_of_tightens tightens
  have contexts := contextsAlike_of_eq Comparison.admission
    (rfl : (vm.withRules rules).context = vm.context)
  refine ⟨⟨alike, ?_, reservedForUpgrade_of_tightens tightens, checkLockTime_of_tightens tightens,
    checkSequence_of_tightens tightens,
    alike.introspect contexts (tightens.enables_eq (by decide)) fun _ _ _ _ => alike.pushNumber _,
    alike.introspectToken contexts (tightens.enables_eq (by decide))
      fun _ _ _ _ => alike.pushNumber _⟩,
    .of_refl rfl Comparison.admission_refl⟩
  intro instruction
  simp only [pushInstructionData, Sequencing.throw_bind]
  refine Comparison.admission_unless ?_ (alike.push _)
  intro refused
  rw [Bool.and_eq_true] at refused ⊢
  exact ⟨tightens.keeps _ refused.1, refused.2⟩

private theorem checkSignature_of_tightens (signature key : Bytes) (code : Script) :
    (vm.withRules rules).checkSignature signature key code =
      vm.checkSignature signature key code := by
  have digest := SigHash.digest_congr (tightens.enables_eq (by decide))
    (tightens.enables_eq (by decide))
  unfold checkSignature
  simp only [rules_withRules, digest]
  rfl

private theorem checksAlike_of_tightens :
    ChecksAlike Comparison.admission (vm.withRules rules) vm where
  toWorksAlike := (computesAlike_of_tightens tightens).toWorksAlike
  toFormsAlike := formsAlike_of_admitsForms (Signature.admitsForms_of_tightens tightens)
  withoutSignature := withoutSignature_congr (tightens.enables_eq (by decide))
  schnorrMultisig := tightens.enables_eq (by decide)
  ask _ := Comparison.admission_refl _
  checkSignature signature key code _ := by
    rw [checkSignature_of_tightens tightens]
    exact Comparison.admission_refl _
  demandEmpty valid signatures := by
    refine Comparison.admission_unless ?_ (Comparison.admission_refl _)
    intro refused
    rw [Bool.and_eq_true, Bool.and_eq_true] at refused ⊢
    exact ⟨⟨refused.1.1, tightens.keeps _ refused.1.2⟩, refused.2⟩
  countSigChecks count := by
    rw [(alike_of_tightens tightens).countSigChecks]
    exact Comparison.admission_refl _

/-- A script that is evaluated under the stricter rules is evaluated under the
looser rules, with the same result. -/
theorem evaluate_of_tightens {script : Script} {session after : Session}
    (evaluated : (vm.withRules rules).evaluate script session = .ok () after) :
    vm.evaluate script session = .ok () after := by
  have corresponds := corresponds_of_tightens tightens
  have checks := checksAlike_of_tightens tightens
  rw [evaluate_eq_ok_iff] at evaluated ⊢
  rcases evaluated with ⟨short, machine, ran, rfl⟩
  refine ⟨short, machine, ?_, rfl⟩
  exact corresponds.run rfl script
    (fun instruction _ => checks.comparesChecks corresponds.allChanges.toAdmitsCounting instruction)
    _ _ _ ran

end

end Interpreter
end SpendRules

import SpendRules.Proofs.Machine.SignatureChecks
import SpendRules.Proofs.Machine.Steps

namespace SpendRules

namespace Metrics

/-- What the work done has to cost at least, for hashing and for signature checks. -/
def work (metrics : Metrics) : Nat :=
  64 * metrics.hashIterations + 26000 * metrics.sigChecks

/-- The counters are machine words. -/
structure FitsWords (metrics : Metrics) : Prop where
  sigChecks : metrics.sigChecks < UInt64.size
  opCost : metrics.opCost < UInt64.size
  hashIterations : metrics.hashIterations < UInt64.size

/-- No counter is set back. -/
structure Grows (before after : Metrics) : Prop where
  sigChecks : before.sigChecks ≤ after.sigChecks
  opCost : before.opCost ≤ after.opCost
  hashIterations : before.hashIterations ≤ after.hashIterations

variable {first second third : Metrics}

theorem Grows.refl (metrics : Metrics) : metrics.Grows metrics :=
  ⟨Nat.le_refl _, Nat.le_refl _, Nat.le_refl _⟩

theorem Grows.trans (former : first.Grows second) (latter : second.Grows third) :
    first.Grows third :=
  ⟨Nat.le_trans former.sigChecks latter.sigChecks, Nat.le_trans former.opCost latter.opCost,
    Nat.le_trans former.hashIterations latter.hashIterations⟩

/-- What has been counted up to words has been counted in words all along. -/
theorem FitsWords.of_grows (fits : second.FitsWords) (grows : first.Grows second) :
    first.FitsWords :=
  ⟨Nat.lt_of_le_of_lt grows.sigChecks fits.sigChecks,
    Nat.lt_of_le_of_lt grows.opCost fits.opCost,
    Nat.lt_of_le_of_lt grows.hashIterations fits.hashIterations⟩

end Metrics

namespace Interpreter

/-!
# Work is paid for

While work is metered, each operation that hashes or checks signatures charges
for this, and each instruction charges for itself.  What has been charged beyond
the work done therefore never decreases, and it grows with each instruction.
The limits on what is charged and hashed are checked on the way, so that they
hold whenever a script has been run to its end.

The counters are natural numbers.  As they only grow, and as the budget is a
machine word, a script that is run to its end has never counted beyond words.
A product of two lengths that is no word is above the budget.
-/

/-- From one account to another one, a number of instructions and all further
work have been charged, and hashing has stayed within its limit. -/
structure Accounts (vm : Interpreter) (count : Nat) (before after : Metrics) : Prop where
  charged : before.opCost + 100 * count + after.work ≤ after.opCost + before.work
  hashing : before.hashIterations ≤ vm.hashIterationLimit ->
    after.hashIterations ≤ vm.hashIterationLimit

namespace Accounts

variable {vm : Interpreter} {count further : Nat} {first second third : Metrics}

theorem refl (vm : Interpreter) (metrics : Metrics) : vm.Accounts 0 metrics metrics :=
  ⟨Nat.le_refl _, id⟩

theorem trans (former : vm.Accounts count first second)
    (latter : vm.Accounts further second third) :
    vm.Accounts (count + further) first third := by
  refine ⟨?_, fun within => latter.hashing (former.hashing within)⟩
  have formerCharged := former.charged
  have latterCharged := latter.charged
  omega

end Accounts

variable {vm : Interpreter} {machine after : Machine}

/-- Nothing is charged too little. -/
private def accounting (vm : Interpreter) : Comparison :=
  Comparison.relating (fun machine after => vm.Accounts 0 machine.metrics after.metrics)
    (fun _ => .refl vm _)
    fun _ _ _ former latter => former.trans latter

private theorem accounting_modify {change : Machine -> Machine}
    (unseen : forall machine, (change machine).metrics = machine.metrics) :
    (accounting vm).holds (modify change) (modify change) := by
  refine Comparison.relating_modify _ fun machine => ?_
  rw [unseen]
  exact .refl vm _

private theorem charge_accounts (cost : Nat) :
    (accounting vm).holds (vm.charge cost) (vm.charge cost) := by
  intro machine value after success
  rw [← charge_eq_ok_iff.mp success]
  refine ⟨?_, id⟩
  dsimp only [Metrics.work]
  omega

section

variable (metered : vm.isMetered = true)

include metered

private theorem chargeHash_accounts (length : Nat) (twofold : Bool) :
    (accounting vm).holds (vm.chargeHash length twofold) (vm.chargeHash length twofold) := by
  intro machine value after success
  rcases chargeHash_eq_ok_iff.mp success with ⟨same, few⟩
  refine ⟨?_, fun _ => few metered⟩
  rw [← same, metered, if_pos rfl]
  dsimp only [Metrics.work]
  omega

private theorem countSigChecks_accounts (count : Nat) :
    (accounting vm).holds (vm.countSigChecks count) (vm.countSigChecks count) := by
  intro machine value after success
  rw [← countSigChecks_eq_ok_iff.mp success, metered, if_pos rfl]
  refine ⟨?_, id⟩
  dsimp only [Metrics.work]
  omega

private theorem covers_accounting : Covers (accounting vm) vm := by
  have changes : (accounting vm).AdmitsChanges :=
    .of_modify rfl (Comparison.relating_throw _ _) fun _ metrics _ => accounting_modify metrics
  exact covers_of_charges changes (fun _ => accounting_modify fun _ => rfl) charge_accounts
    (chargeHash_accounts metered) (countSigChecks_accounts metered)

/-! ## Instructions and scripts -/

private theorem permit_accounts {instruction : Instruction}
    (permits : vm.permit instruction machine = .ok () after) :
    vm.Accounts 1 machine.metrics after.metrics := by
  rw [← eq_of_permit permits, metered, if_pos rfl]
  refine ⟨?_, id⟩
  dsimp only [Metrics.work]
  omega

/-- One instruction is charged, and what has been charged is within the budget. -/
private theorem step_accounts {instruction : Instruction} {next : Nat}
    (stepped : vm.step instruction next machine = .ok () after) :
    vm.Accounts 1 machine.metrics after.metrics ∧ after.metrics.opCost ≤ vm.opCostBudget := by
  have covers := covers_accounting metered
  rcases step_eq_ok_iff.mp stepped with ⟨permitted, permits, carried, within⟩
  have carrying := covers.carryOut instruction next (Or.inl rfl) (covers.checks instruction)
    _ _ _ carried
  exact ⟨(permit_accounts metered permits).trans carrying, within.opCost metered⟩

/-- All instructions of a run are charged. -/
private theorem runFrom_accounts {start : Nat} {instructions : List Instruction}
    (ran : vm.runFrom start instructions machine = .ok () after) :
    vm.Accounts instructions.length machine.metrics after.metrics ∧
      (machine.metrics.opCost ≤ vm.opCostBudget -> after.metrics.opCost ≤ vm.opCostBudget) := by
  induction instructions generalizing start machine with
  | nil =>
      rw [← (Sequencing.pure_eq_ok_iff.mp ran).2]
      exact ⟨.refl vm _, id⟩
  | cons first rest inductionHypothesis =>
      rcases Sequencing.bind_eq_ok_iff.mp ran with ⟨_, middle, stepped, remaining⟩
      rcases step_accounts metered stepped with ⟨charged, within⟩
      rcases inductionHypothesis remaining with ⟨restCharged, stillWithin⟩
      rw [List.length_cons, Nat.add_comm]
      exact ⟨charged.trans restCharged, fun _ => stillWithin within⟩

/-- Evaluating a script charges its instructions and its work, and keeps within
the limits. -/
theorem evaluate_accounts {script : Script} {session ended : Session}
    (evaluated : vm.evaluate script session = .ok () ended) :
    vm.Accounts script.instructions.length session.metrics ended.metrics ∧
      (session.metrics.opCost ≤ vm.opCostBudget -> ended.metrics.opCost ≤ vm.opCostBudget) := by
  rcases evaluate_eq_ok_iff.mp evaluated with ⟨_, machine, ran, rfl⟩
  exact runFrom_accounts metered (run_eq_ok_iff.mp ran).1

end

/-- No step charges anything while work is not metered. -/
private theorem covers_keeping_opCost (unmetered : vm.isMetered = false) :
    Covers (Comparison.keeping fun machine => machine.metrics.opCost) vm := by
  refine covers_of_charges ?_ (fun _ => Comparison.keeping_modify _ fun _ => rfl) ?_ ?_ ?_
  · refine .of_modify rfl (Comparison.relating_throw _ _) fun change metrics _ => ?_
    exact Comparison.keeping_modify _ fun machine => congrArg Metrics.opCost (metrics machine)
  · intro cost machine _ after charged
    rw [← charge_eq_ok_iff.mp charged, unmetered]
    rfl
  · intro length twofold machine _ after charged
    rw [← (chargeHash_eq_ok_iff.mp charged).1, unmetered]
    rfl
  · intro count machine _ after charged
    rw [← countSigChecks_eq_ok_iff.mp charged, unmetered]
    rfl

/-- While work is not metered, nothing is charged. -/
theorem evaluate_keeps_opCost (unmetered : vm.isMetered = false) {script : Script}
    {session ended : Session} (evaluated : vm.evaluate script session = .ok () ended) :
    ended.metrics.opCost = session.metrics.opCost := by
  have covers := covers_keeping_opCost unmetered
  rcases evaluate_eq_ok_iff.mp evaluated with ⟨_, machine, ran, rfl⟩
  exact covers.run rfl script _ _ _ ran

/-! ## Counting in words -/

/-- No step sets a counter back. -/
private def growing : Comparison :=
  Comparison.relating (fun machine after => machine.metrics.Grows after.metrics) (fun _ => .refl _)
    fun _ _ _ former latter => former.trans latter

private theorem covers_growing (vm : Interpreter) : Covers growing vm := by
  have unseen {change : Machine -> Machine}
      (same : forall machine, (change machine).metrics = machine.metrics) :
      growing.holds (modify change) (modify change) := by
    refine Comparison.relating_modify _ fun machine => ?_
    rw [same]
    exact .refl _
  have changes : growing.AdmitsChanges :=
    .of_modify rfl (Comparison.relating_throw _ _) fun _ metrics _ => unseen metrics
  refine covers_of_charges changes (fun _ => unseen fun _ => rfl) ?_ ?_ ?_
  · intro cost machine _ after charged
    rw [← charge_eq_ok_iff.mp charged]
    exact ⟨Nat.le_refl _, Nat.le_add_right _ _, Nat.le_refl _⟩
  · intro length twofold machine _ after charged
    rw [← (chargeHash_eq_ok_iff.mp charged).1]
    exact ⟨Nat.le_refl _, Nat.le_add_right _ _, Nat.le_add_right _ _⟩
  · intro count machine _ after charged
    rw [← countSigChecks_eq_ok_iff.mp charged]
    exact ⟨Nat.le_add_right _ _, Nat.le_add_right _ _, Nat.le_refl _⟩

theorem evaluate_grows {script : Script} {session ended : Session}
    (evaluated : vm.evaluate script session = .ok () ended) :
    session.metrics.Grows ended.metrics := by
  have covers := covers_growing vm
  rcases evaluate_eq_ok_iff.mp evaluated with ⟨_, machine, ran, rfl⟩
  exact covers.run rfl script _ _ _ ran

/-- An account that has been charged for everything since the first instruction, and that
keeps within a budget that is a word, is one in words. -/
theorem Accounts.fitsWords {count : Nat} {final : Metrics} (accounts : vm.Accounts count {} final)
    (within : final.opCost ≤ vm.opCostBudget) (budget : vm.opCostBudget < UInt64.size) :
    final.FitsWords := by
  have charged := accounts.charged
  simp only [Metrics.work] at charged
  exact ⟨by omega, by omega, by omega⟩

end Interpreter
end SpendRules

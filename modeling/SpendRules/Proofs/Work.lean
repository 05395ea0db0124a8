import SpendRules.Proofs.Machine.Work
import SpendRules.Proofs.Verification

namespace SpendRules

/-- The number of instructions in all of the scripts. -/
def Script.instructionCount : List Script -> Nat
  | [] => 0
  | script :: rest => script.instructions.length + instructionCount rest

namespace Interpreter

/-!
# The work of a verification

The scripts of a verification are evaluated one after another, and each of them
goes on from the account that the former one has left.  What holds of the
account of one script, starting from any account, therefore holds of them all.
-/

/-- The scripts that a successful verification evaluates: both scripts that it
is given, and the supplied script when the locking script commits to it. -/
def evaluatedScripts (vm : Interpreter) (scriptSig scriptPubkey : Script) : List Script :=
  scriptSig :: scriptPubkey ::
    match vm.evaluate scriptSig {} with
    | .ok _ unlocked =>
      if vm.commitsToScript scriptPubkey && !vm.isRecovery unlocked.stack then
        (unlocked.stack.take 1).map Script.mk
      else []
    | .error _ _ => []

/-- The scripts are evaluated one after another, each on the account that the
former one left. -/
inductive EvaluatesAll (vm : Interpreter) : List Script -> Metrics -> Metrics -> Prop where
  | nil (metrics : Metrics) : EvaluatesAll vm [] metrics metrics
  | cons {script : Script} {scripts : List Script} {session ended : Session} {final : Metrics}
    (evaluated : vm.evaluate script session = .ok () ended)
    (rest : EvaluatesAll vm scripts ended.metrics final) :
    EvaluatesAll vm (script :: scripts) session.metrics final

variable {vm : Interpreter} {scriptSig scriptPubkey : Script} {metrics : Metrics}

theorem evaluatesAll_of_verify
    (verified : (vm.verify scriptSig scriptPubkey).result = .ok metrics) :
    vm.EvaluatesAll (vm.evaluatedScripts scriptSig scriptPubkey) {} metrics := by
  rcases verify_eq_ok_iff.mp verified with ⟨after, succeeded, rfl⟩
  rcases verifyScript_eq_ok_iff.mp succeeded with ⟨unlocked, locked, unlocks, concludes⟩
  unfold evaluatedScripts
  rw [unlocks.unlocking]
  refine .cons unlocks.unlocking (.cons unlocks.locking ?_)
  dsimp only
  cases concludes with
  | plain direct _ =>
      rw [direct, Bool.false_and, if_neg Bool.false_ne_true]
      exact .nil _
  | recovery commits _ exempt =>
      rw [exempt, Bool.not_true, Bool.and_false, if_neg Bool.false_ne_true]
      exact .nil _
  | redeem _ commits _ subject redeemed _ =>
      rw [commits, subject, Bool.not_false, Bool.and_true, if_pos rfl]
      rcases evaluateRedeemScript_eq_ok_iff.mp redeemed with ⟨supplied, rest, found, evaluated, _⟩
      have found : unlocked.stack = supplied :: rest := found
      have last : vm.EvaluatesAll [{ bytes := supplied }]
          ({ locked with stack := rest } : Session).metrics _ :=
        .cons evaluated (.nil _)
      rw [found]
      exact last

theorem EvaluatesAll.accounts {scripts : List Script} {before final : Metrics}
    (metered : vm.isMetered = true) (evaluates : vm.EvaluatesAll scripts before final) :
    vm.Accounts (Script.instructionCount scripts) before final ∧
      (before.opCost ≤ vm.opCostBudget -> final.opCost ≤ vm.opCostBudget) := by
  induction evaluates with
  | nil metrics => exact ⟨.refl vm metrics, id⟩
  | cons evaluated _ inductionHypothesis =>
      rcases evaluate_accounts metered evaluated with ⟨charged, within⟩
      rcases inductionHypothesis with ⟨restCharged, stillWithin⟩
      exact ⟨charged.trans restCharged, fun initially => stillWithin (within initially)⟩

theorem EvaluatesAll.opCost_eq {scripts : List Script} {before final : Metrics}
    (unmetered : vm.isMetered = false) (evaluates : vm.EvaluatesAll scripts before final) :
    final.opCost = before.opCost := by
  induction evaluates with
  | nil metrics => rfl
  | cons evaluated _ inductionHypothesis =>
      exact inductionHypothesis.trans (evaluate_keeps_opCost unmetered evaluated)

/-- Counters that are words in the end were words before each script. -/
theorem EvaluatesAll.fitsWords {scripts : List Script} {before final : Metrics}
    (evaluates : vm.EvaluatesAll scripts before final) (fits : final.FitsWords) :
    before.FitsWords := by
  induction evaluates with
  | nil metrics => exact fits
  | cons evaluated _ inductionHypothesis =>
      exact (inductionHypothesis fits).of_grows (evaluate_grows evaluated)

/-- While work is metered, with a budget that is a machine word, no successful verification
counts beyond such words.  As no counter is ever set back, counting in words gives the same. -/
theorem verify_fitsWords (metered : vm.isMetered = true) (budget : vm.opCostBudget < UInt64.size)
    (verified : (vm.verify scriptSig scriptPubkey).result = .ok metrics) : metrics.FitsWords := by
  rcases (evaluatesAll_of_verify verified).accounts metered with ⟨accounts, within⟩
  exact accounts.fitsWords (within (Nat.zero_le _)) budget

/-- While work is metered, a successful verification has been charged for every
instruction, every hashed block and every signature check, and it has stayed
within the budget that the unlocking script buys.  Otherwise nothing is
charged. -/
theorem verify_accounts (vm : Interpreter) (scriptSig scriptPubkey : Script) (metrics : Metrics)
    (verified : (vm.verify scriptSig scriptPubkey).result = .ok metrics) :
    (vm.enables .may2025 = true ->
      100 * Script.instructionCount (vm.evaluatedScripts scriptSig scriptPubkey) +
          64 * metrics.hashIterations + 26000 * metrics.sigChecks ≤ metrics.opCost ∧
        metrics.opCost ≤ (41 + vm.unlockingLength) * 800 ∧
        metrics.hashIterations ≤ (41 + vm.unlockingLength) * 7 / 2) ∧
    (vm.enables .may2025 = false -> metrics.opCost = 0) := by
  have evaluates := evaluatesAll_of_verify verified
  refine ⟨?_, fun unmetered => evaluates.opCost_eq unmetered⟩
  intro metered
  rcases evaluates.accounts metered with ⟨accounts, within⟩
  refine ⟨?_, within (Nat.zero_le _), accounts.hashing (Nat.zero_le _)⟩
  have charged := accounts.charged
  simp only [Metrics.work] at charged
  omega

/-- An interpreter that meters work. -/
private def meteredInterpreter : Interpreter :=
  Configuration.interpreter {} Rule.may2025.publicMask Secp256k1.verifier none

/-- One is pushed, hashed once and left. -/
theorem verify_accounts_hashOne :
    ∃ metrics, (meteredInterpreter.verify { bytes := [0x51] } { bytes := [0xa8] }).result =
        .ok metrics ∧
      100 * Script.instructionCount
        (meteredInterpreter.evaluatedScripts { bytes := [0x51] } { bytes := [0xa8] }) +
          64 * metrics.hashIterations + 26000 * metrics.sigChecks ≤ metrics.opCost ∧
        metrics.opCost ≤ 41 * 800 ∧ metrics.hashIterations ≤ 41 * 7 / 2 := by
  have accepted :
      (meteredInterpreter.verify { bytes := [0x51] } { bytes := [0xa8] }).IsAccepted := by
    decide +kernel
  rcases accepted with ⟨metrics, verified⟩
  exact ⟨metrics, verified, (verify_accounts meteredInterpreter _ _ metrics verified).1 (by decide)⟩

end Interpreter
end SpendRules

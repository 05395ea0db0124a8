import SpendRules.Proofs.Machine.SigChecks
import SpendRules.Proofs.Tightening

namespace SpendRules
namespace Interpreter

/-!
# The questions of a verification

A verification starts without checks and without questions, and each script
counts at least one check for each question that it asks.  So the limit on
checks, which is demanded at the end, also bounds what the verifier has to do.
The exemption from running a witness program ends a verification without that
demand, but only scripts that check no signature lead there.
-/

variable {vm : Interpreter} {scriptSig scriptPubkey : Script}
  {session unlocked locked after : Session}

private theorem Unlocks.surplus_le
    (unlocks : vm.Unlocks scriptSig scriptPubkey session unlocked locked) :
    session.surplus ≤ locked.surplus :=
  Int.le_trans (surplus_le_of_evaluate unlocks.unlocking) (surplus_le_of_evaluate unlocks.locking)

private theorem Concludes.surplus_le {stack : List Bytes}
    (concludes : vm.Concludes scriptSig scriptPubkey stack locked after) :
    locked.surplus ≤ after.surplus := by
  cases concludes with
  | plain | recovery => exact Int.le_refl _
  | redeem _ _ _ _ redeemed _ =>
      rcases evaluateRedeemScript_eq_ok_iff.mp redeemed with ⟨serialized, rest, _, evaluated, _⟩
      exact (surplus_le_of_evaluate evaluated :)

/-- The limit on checks holds in the end, whether or not it was demanded. -/
private theorem Concludes.sigChecks_le (active : vm.enables .inputSigChecks = true)
    (unlocks : vm.Unlocks scriptSig scriptPubkey {} unlocked locked)
    (concludes : vm.Concludes scriptSig scriptPubkey unlocked.stack locked after) :
    after.metrics.sigChecks * 43 ≤ scriptSig.bytes.length + 60 := by
  cases concludes with
  | plain _ clean => exact clean.sigChecks active
  | recovery commits pushOnly _ =>
      have unchecked := unlocks.sigChecks_eq_zero pushOnly commits
      dsimp only
      omega
  | redeem _ _ _ _ _ clean => exact clean.sigChecks active

/-- A successful verification asks the verifier no more often than it counts
checks, and the limit on checks, where it is active, holds on every way to
success. -/
theorem length_calls_le_sigChecks (vm : Interpreter) (scriptSig scriptPubkey : Script)
    (metrics : Metrics) (verified : (vm.verify scriptSig scriptPubkey).result = .ok metrics) :
    (vm.verify scriptSig scriptPubkey).calls.length ≤ metrics.sigChecks ∧
      (vm.enables .inputSigChecks = true ->
        43 * metrics.sigChecks ≤ scriptSig.bytes.length + 60 ∧
          43 * (vm.verify scriptSig scriptPubkey).calls.length ≤ scriptSig.bytes.length + 60) := by
  rcases verify_eq_ok_iff.mp verified with ⟨after, succeeded, rfl⟩
  rcases verifyScript_eq_ok_iff.mp succeeded with ⟨unlocked, locked, unlocks, concludes⟩
  have counted : (vm.verify scriptSig scriptPubkey).calls.length ≤ after.metrics.sigChecks := by
    have surplus : (0 : Int) ≤ after.surplus := Int.le_trans unlocks.surplus_le concludes.surplus_le
    rw [verify_of_ok succeeded, List.length_reverse]
    unfold Session.surplus at surplus
    omega
  refine ⟨counted, fun active => ?_⟩
  have limited := Concludes.sigChecks_le active unlocks concludes
  omega

/-- An interpreter that bounds signature checks and whose verifier accepts every
signature. -/
private def acceptingInterpreter : Interpreter :=
  Configuration.interpreter {} Rule.inputSigChecks.publicMask (fun _ => .ok true) none

/-- One signature of data is checked. -/
theorem length_calls_le_sigChecks_oneData :
    ∃ metrics,
      (acceptingInterpreter.verify { bytes := [0x51, 0x51, 0x51] }
        { bytes := [0xba] }).result = .ok metrics ∧
      (acceptingInterpreter.verify { bytes := [0x51, 0x51, 0x51] }
        { bytes := [0xba] }).calls.length ≤ metrics.sigChecks ∧
      43 * metrics.sigChecks ≤ 3 + 60 := by
  have accepted : (acceptingInterpreter.verify { bytes := [0x51, 0x51, 0x51] }
      { bytes := [0xba] }).IsAccepted := by
    decide +kernel
  rcases accepted with ⟨metrics, verified⟩
  rcases length_calls_le_sigChecks acceptingInterpreter _ _ metrics verified with ⟨counted, limited⟩
  exact ⟨metrics, verified, counted, (limited (by decide)).1⟩

end Interpreter
end SpendRules

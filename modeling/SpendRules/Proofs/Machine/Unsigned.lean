import SpendRules.Proofs.Machine.Progress
import SpendRules.Proofs.Script.Layout

namespace SpendRules

/-!
# Scripts that check no signature

Only three operations put questions to the verifier, and only they count as
signature checks.  A script without them leaves both as they were, whatever
else it does and under all rules.  Scripts that only push are of this kind, and
so are those that only compare a hash.
-/

namespace Script

/-- No instruction of the script checks a signature. -/
def ChecksNothing (script : Script) : Prop :=
  forall instruction, instruction ∈ script.instructions ->
    (Opcode.operation instruction.opcode).checksSignature = false

set_option maxRecDepth 4096 in
private theorem checksSignature_of_isPush (opcode : UInt8) :
    Opcode.isPush opcode = true -> (Opcode.operation opcode).checksSignature = false := by
  -- There are 256 opcodes.
  cases opcode with
  | ofBitVec opcode =>
      cases opcode with
      | ofFin opcode => revert opcode; decide

theorem checksNothing_of_isPushOnly {script : Script} (pushes : script.isPushOnly = true) :
    script.ChecksNothing := by
  intro instruction member
  have all := (Bool.and_eq_true _ _ ▸ pushes).2
  exact checksSignature_of_isPush _ (List.all_eq_true.mp all instruction member)

/-- A script that compares a hash hashes, pushes and compares. -/
theorem checksNothing_of_isHashComparison {script : Script} {hashOpcode : UInt8} {hashLength : Nat}
    (indirect : ¬ hashOpcode ≤ Opcode.pushBytesMax)
    (unannounced : Instruction.lengthWidth? hashOpcode = none)
    (silent : (Opcode.operation hashOpcode).checksSignature = false) (short : hashLength ≤ 75)
    (compares : isHashComparison hashOpcode hashLength script.bytes = true) :
    script.ChecksNothing := by
  rcases script with ⟨bytes⟩
  rcases isHashComparison_iff.mp compares with ⟨hash, rfl, rfl⟩
  intro instruction member
  rw [instructions_hashComparison indirect unannounced short] at member
  rcases List.mem_cons.mp member with rfl | member
  · exact silent
  rcases List.mem_cons.mp member with rfl | member
  · apply checksSignature_of_isPush
    exact decide_eq_true (UInt8.le_trans (Opcode.ofNat_le_pushBytesMax short) (by decide))
  · rw [List.mem_singleton.mp member]
    rfl

theorem checksNothing_of_isPayToScriptHash {script : Script}
    (pays : script.isPayToScriptHash = true) :
    script.ChecksNothing :=
  checksNothing_of_isHashComparison (by decide) (by decide) (by decide) (by decide) pays

theorem checksNothing_of_isPayToScriptHash32 {script : Script}
    (pays : script.isPayToScriptHash32 = true) :
    script.ChecksNothing :=
  checksNothing_of_isHashComparison (by decide) (by decide) (by decide) (by decide) pays

end Script

namespace Interpreter

/-- Evaluating a script without signature checks neither counts a check nor
asks the verifier. -/
theorem evaluate_of_checksNothing {vm : Interpreter} {script : Script} {session after : Session}
    (silent : script.ChecksNothing) (evaluated : vm.evaluate script session = .ok () after) :
    after.metrics.sigChecks = session.metrics.sigChecks ∧ after.calls = session.calls := by
  have kept : (Progress.still.on Session.checkRecord).Along (vm.evaluate script) session := by
    refine evaluate_along (fun instruction member checks => ?_) session
    rw [silent instruction member] at checks
    cases checks
  rw [Progress.Along, Sequencing.finalState_of_ok evaluated] at kept
  exact ⟨congrArg CheckRecord.sigChecks kept, congrArg CheckRecord.calls kept⟩

end Interpreter

end SpendRules

import SpendRules.Proofs.Machine.SignatureChecks
import SpendRules.Proofs.Machine.Steps

namespace SpendRules
namespace Interpreter

/-!
# Open branches

Which branches are open changes in three operations only, and how many are open
does not depend on what is on the stack: a branch is opened in any case, and only
whether it is taken is a matter of the stack.
-/

variable {vm : Interpreter} {instruction : Instruction} {next : Nat} {machine after : Machine}

private theorem performsAlike_keeping_branches (vm : Interpreter) :
    PerformsAlike (Comparison.keeping Machine.branches) vm vm := by
  refine .of_metrics ⟨fun _ => ?_, fun _ => ?_, fun _ => ?_⟩ fun _ => ?_
  all_goals exact Comparison.keeping_modify _ fun _ => rfl

/-- Operations that do not concern branches keep them. -/
theorem branches_of_perform {operation : Operation} (elsewhere : operation.concernsBranches = false)
    {executing : Bool} (performed : vm.perform operation executing next machine = .ok () after) :
    after.branches = machine.branches := by
  have performs := performsAlike_keeping_branches vm
  have checks := ChecksAlike.self performs.toWorksAlike
    (.keeping vm (fun _ _ => rfl) fun _ _ => rfl)
  have counting : (Comparison.keeping Machine.branches).AdmitsCounting :=
    ⟨fun _ => Comparison.keeping_modify _ fun _ => rfl, Comparison.relating_throw _ _⟩
  refine performs.perform operation executing next (Or.inl rfl) ?_ ?_ machine () after performed
  · intro isControl
    cases operation with
    | codeSeparator => exact Comparison.keeping_modify _ fun _ => rfl
    | openBranch _ | elseBranch | closeBranch => cases elsewhere
    | _ => cases isControl
  · intro checksSignature
    cases operation with
    | checkSig required => exact checks.checkSig required
    | checkMultiSig required => exact checks.checkMultiSig counting required
    | checkDataSig required => exact checks.checkDataSig required
    | _ => cases checksSignature

theorem branches_of_carryOut
    (elsewhere : (Opcode.operation instruction.opcode).concernsBranches = false)
    (carried : vm.carryOut instruction next machine = .ok () after) :
    after.branches = machine.branches := by
  unfold carryOut at carried
  rw [Sequencing.get_bind] at carried
  split at carried
  · exact (performsAlike_keeping_branches vm).pushInstructionData instruction machine ()
      after carried
  split at carried
  · exact branches_of_perform elsewhere carried
  · rw [← (Sequencing.pure_eq_ok_iff.mp carried).2]

/-- Operations on branches are carried out in every branch. -/
theorem carryOut_of_concernsBranches
    (concerns : (Opcode.operation instruction.opcode).concernsBranches = true) :
    vm.carryOut instruction next machine =
      vm.perform (Opcode.operation instruction.opcode) machine.isExecuting next machine := by
  unfold carryOut
  rw [Sequencing.get_bind]
  cases operation : Opcode.operation instruction.opcode with
  | openBranch | elseBranch | closeBranch | reservedBranch =>
      cases machine.isExecuting with
      | true => rfl
      | false => rfl
  | _ =>
      rw [operation] at concerns
      cases concerns

/-- A branch is opened whether or not it is taken, unless too many are open.  Where
not all open branches are taken, the new one is not taken either. -/
theorem eq_of_openBranch {negated executing : Bool}
    (opened : vm.openBranch negated executing machine = .ok () after) :
    (∃ taken, { machine with
          stack := if executing then machine.stack.drop 1 else machine.stack
          branches := taken :: machine.branches } = after ∧ (executing = false -> taken = false)) ∧
      (vm.isMetered = true -> after.branches.length ≤ vm.limits.maxConditionalDepth.toNat) := by
  have entered (taken : Bool) (state : Machine)
      (enters : (do
        modify fun machine => { machine with branches := taken :: machine.branches }
        if vm.isMetered &&
          decide ((<- get).branches.length > vm.limits.maxConditionalDepth.toNat) then
          throw .conditionalStackDepth : Step Unit) state = .ok () after) :
      { state with branches := taken :: state.branches } = after ∧
        (vm.isMetered = true -> after.branches.length ≤ vm.limits.maxConditionalDepth.toNat) := by
    rw [Sequencing.modify_bind, Sequencing.get_bind, Sequencing.unless_eq_ok_iff] at enters
    rcases Sequencing.pure_eq_ok_iff.mp enters.2 with ⟨_, rfl⟩
    refine ⟨rfl, fun metered => ?_⟩
    simpa [metered] using enters.1
  unfold openBranch at opened
  cases executing with
  | false =>
      rcases entered false machine opened with ⟨same, few⟩
      exact ⟨⟨false, same, fun _ => rfl⟩, few⟩
  | true =>
      rw [if_pos rfl, Step.stack_bind] at opened
      cases stack : machine.stack with
      | nil =>
          rw [stack] at opened
          exact (Sequencing.throw_ne_ok opened).elim
      | cons condition rest =>
          rw [stack] at opened
          rcases entered (ScriptNumber.isTrue condition != negated)
            { machine with stack := rest } opened with ⟨same, few⟩
          exact ⟨⟨_, same, nofun⟩, few⟩

theorem eq_of_elseBranch (switched : elseBranch machine = .ok () after) :
    ∃ taken rest, machine.branches = taken :: rest ∧
      { machine with branches := (!taken) :: rest } = after := by
  unfold elseBranch at switched
  rw [Sequencing.get_bind] at switched
  cases branches : machine.branches with
  | nil =>
      rw [branches] at switched
      exact (Sequencing.throw_ne_ok switched).elim
  | cons taken rest =>
      rw [branches] at switched
      exact ⟨taken, rest, rfl, Sequencing.modify_eq_ok_iff.mp switched⟩

theorem eq_of_closeBranch (closed : closeBranch machine = .ok () after) :
    ∃ taken rest, machine.branches = taken :: rest ∧ { machine with branches := rest } = after := by
  unfold closeBranch at closed
  rw [Sequencing.get_bind] at closed
  cases branches : machine.branches with
  | nil =>
      rw [branches] at closed
      exact (Sequencing.throw_ne_ok closed).elim
  | cons taken rest =>
      rw [branches] at closed
      exact ⟨taken, rest, rfl, Sequencing.modify_eq_ok_iff.mp closed⟩

end Interpreter
end SpendRules

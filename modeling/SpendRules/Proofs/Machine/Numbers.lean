import SpendRules.Proofs.Machine.Progress
import SpendRules.Proofs.Machine.Steps
import SpendRules.Proofs.Script.Number

namespace SpendRules

/-!
# Numbers on and off the stack

Operations on numbers take their operands from the top of the stack and leave one
result.  On a stack that begins with operands, the steps that take them succeed,
and what follows goes on with the numbers.  A result is left in its shortest form,
unless the rules bound the length of results and it is longer.
-/

/-- On the machine, the step stops with the failure. -/
def Step.StopsWith {α : Type} (step : Step α) (machine : Machine) (failure : ScriptError) : Prop :=
  ∃ after, step machine = .error failure after

namespace Interpreter

variable (vm : Interpreter)

/-- The element is an operand that stands for the number. -/
def ReadsNumber (element : Bytes) (number : Int) : Prop :=
  ScriptNumber.decode element (vm.enables .minimalData) vm.numberBounds.operandSize = .ok number

/-- The number is not longer than results may be. -/
def AdmitsResult (number : Int) : Prop :=
  forall size, vm.numberBounds.resultSize = some size -> (ScriptNumber.encode number).length ≤ size

variable {vm} {machine : Machine} {element : Bytes} {rest : List Bytes} {number : Int}

theorem exists_cost_of_push {after : Machine} (pushed : vm.push element machine = .ok () after) :
    ∃ cost, after = { machine with stack := element :: machine.stack, metrics.opCost := cost } :=
  ⟨_, (push_eq_ok_iff.mp pushed).symm⟩

theorem require_of_le {count : Nat} (enough : count ≤ machine.stack.length) :
    Step.require count machine = .ok () machine := by
  unfold Step.require
  rw [Step.stack_bind, if_neg (Nat.not_lt_of_le enough)]
  rfl

theorem popNumber_of_reads (found : machine.stack = element :: rest)
    (reads : vm.ReadsNumber element number) :
    vm.popNumber machine = .ok number { machine with stack := rest } := by
  unfold popNumber operand
  rw [Sequencing.bind_of_ok (Step.pop_eq_ok_iff.mpr ⟨rest, found, rfl⟩), reads]
  rfl

theorem popIndex_of_reads (found : machine.stack = element :: rest)
    (reads : vm.ReadsNumber element number) :
    vm.popIndex machine = .ok (ScriptNumber.clamp number) { machine with stack := rest } := by
  unfold popIndex
  rw [Sequencing.bind_of_ok (popNumber_of_reads found reads)]
  rfl

theorem pushNumber_of_admits (admits : vm.AdmitsResult number) :
    vm.pushNumber number machine = vm.push (ScriptNumber.encode number) machine := by
  have checked : ScriptNumber.checkResult vm.numberBounds.resultSize number = .ok number :=
    ScriptNumber.checkResult_eq_ok_iff.mpr
      ⟨fun size bounded => ScriptNumber.length_encode number ▸ admits size bounded, rfl⟩
  unfold pushNumber
  rw [checked]
  rfl

/-- A result that is too long is refused. -/
theorem stopsWith_pushNumber (refuses : ¬ vm.AdmitsResult number) :
    (vm.pushNumber number).StopsWith machine .invalidNumberRange := by
  have checked : ScriptNumber.checkResult vm.numberBounds.resultSize number =
      .error .invalidNumberRange := by
    unfold AdmitsResult at refuses
    unfold ScriptNumber.checkResult
    cases bounded : vm.numberBounds.resultSize with
    | none => exact (refuses fun _ impossible => nomatch bounded ▸ impossible).elim
    | some size =>
        refine if_pos (Nat.lt_of_not_le fun short => refuses fun other same => ?_)
        rw [bounded] at same
        cases same
        rwa [ScriptNumber.length_encode]
  unfold pushNumber
  rw [checked]
  exact ⟨machine, rfl⟩

end Interpreter
end SpendRules

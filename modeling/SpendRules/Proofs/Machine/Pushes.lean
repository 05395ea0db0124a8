import Mathlib.Data.List.Forall2
import SpendRules.Proofs.Machine.Arithmetic
import SpendRules.Proofs.Machine.Numbers
import SpendRules.Proofs.Script.Building

namespace SpendRules

/-!
# What pushes leave on the stack

A push is permitted unless its data is too long, counts as no operation, and leaves
one element.  Data has to be pushed in the shortest way where the rules say so.
Opcodes that push a number by themselves carry no data and are bound by the length
of results instead, which leaves room for their numbers under all rules.

What the steps of building a script leave is told by their instructions: numbers
are pushed in the same shortest form by every machine whose elements may have nine
bytes.
-/

/-- Opcodes that push a number only push. -/
theorem Opcode.isPush_of_operation {opcode : UInt8} {value : Int}
    (pushes : operation opcode = .pushNumber value) :
    isPush opcode = true := by
  have low : table.all (fun row =>
      match row.operation with
      | .pushNumber _ => isPush row.code
      | _ => true) = true := by decide
  rcases exists_entry_of_operation pushes nofun nofun with ⟨row, member, rfl, same⟩
  have only := List.all_eq_true.mp low row member
  rwa [same] at only

/-- A push by length carries an opcode that is made for it. -/
theorem Script.opcode_pushInstruction_le (data : Bytes) :
    (pushInstruction data).opcode ≤ Opcode.pushDataFour := by
  unfold pushInstruction
  split
  · next direct => exact UInt8.le_trans (Opcode.ofNat_le_pushBytesMax direct) (by decide)
  split
  · exact (by decide : Opcode.pushDataOne ≤ Opcode.pushDataFour)
  split
  · exact (by decide : Opcode.pushDataTwo ≤ Opcode.pushDataFour)
  · exact UInt8.le_refl _

namespace Interpreter

variable {vm : Interpreter} {instruction : Instruction} {machine : Machine} {data : Bytes}
  {number : Int}

/-- The machine after an instruction that has pushed an element. -/
def afterPush (vm : Interpreter) (element : Bytes) (machine : Machine) : Machine :=
  { machine with
    stack := element :: machine.stack
    metrics.opCost := machine.metrics.opCost + if vm.isMetered then 100 + element.length else 0 }

/-- Where it is executed, the instruction pushes the element, and only the limits
are left to check. -/
def Pushes (vm : Interpreter) (instruction : Instruction) (element : Bytes) : Prop :=
  forall (machine : Machine) (next : Nat), machine.isExecuting = true ->
    vm.step instruction next machine = vm.checkLimits (vm.afterPush element machine)

/-- The machine after an instruction was permitted that counts as no operation. -/
private def charged (vm : Interpreter) (machine : Machine) : Machine :=
  { machine with metrics.opCost := machine.metrics.opCost + if vm.isMetered then 100 else 0 }

private theorem permit_of_isPush (fits : (instruction.data.getD []).length ≤ vm.maxElementSize)
    (pushes : Opcode.isPush instruction.opcode = true)
    (enabled : vm.isDisabled instruction.opcode = false) :
    vm.permit instruction machine = .ok () (vm.charged machine) := by
  simp only [permit, Sequencing.throw_bind]
  rw [pushes, enabled]
  exact Sequencing.unless_eq_ok_iff.mpr
    ⟨Nat.not_lt_of_le fits, Sequencing.bind_eq_ok_iff.mpr ⟨(), _, charge_eq_ok_iff.mpr rfl, rfl⟩⟩

/-- What was charged for the instruction and what is charged for the element add up. -/
private theorem push_charged (element : Bytes) :
    vm.push element (vm.charged machine) = .ok () (vm.afterPush element machine) := by
  rw [push_eq_ok_iff, charged, afterPush, Nat.add_assoc]
  cases vm.isMetered <;> rfl

/-- An instruction pushes what it pushes when it is carried out. -/
private theorem pushes_of_carryOut {element : Bytes}
    (fits : (instruction.data.getD []).length ≤ vm.maxElementSize)
    (pushes : Opcode.isPush instruction.opcode = true)
    (enabled : vm.isDisabled instruction.opcode = false)
    (carries : forall (machine : Machine) (next : Nat), machine.isExecuting = true ->
      vm.carryOut instruction next machine = vm.push element machine) :
    vm.Pushes instruction element := by
  intro machine next executing
  unfold step
  rw [Sequencing.bind_of_ok (permit_of_isPush fits pushes enabled)]
  exact Sequencing.bind_of_ok
    ((carries (vm.charged machine) next executing).trans (push_charged element)) _

/-- Data that was pushed in the shortest way and is no longer than elements may be
is left as it stands. -/
theorem pushes_of_data (carried : instruction.data = some data)
    (low : instruction.opcode ≤ Opcode.pushDataFour) (minimal : instruction.isMinimalPush = true)
    (fits : data.length ≤ vm.maxElementSize) :
    vm.Pushes instruction data := by
  have named : Opcode.operation instruction.opcode = .pushData := if_pos low
  refine pushes_of_carryOut ?_ (decide_eq_true (UInt8.le_trans low (by decide))) ?_ ?_
  · rwa [carried]
  · rw [isDisabled, Opcode.isDisabled, named]
    rfl
  · intro machine next executing
    rw [carryOut, Sequencing.get_bind, executing, named]
    change vm.pushInstructionData instruction machine = _
    rw [pushInstructionData, minimal, carried, Bool.not_true, Bool.and_false]
    rfl

/-- An opcode that pushes a number by itself leaves its shortest form. -/
theorem pushes_of_operation (plain : instruction.data = none)
    (named : Opcode.operation instruction.opcode = .pushNumber number)
    (admits : vm.AdmitsResult number) :
    vm.Pushes instruction (ScriptNumber.encode number) := by
  refine pushes_of_carryOut ?_ (Opcode.isPush_of_operation named) ?_ ?_
  · rw [plain]
    exact Nat.zero_le _
  · rw [isDisabled, Opcode.isDisabled, named]
    rfl
  · intro machine next executing
    rw [carryOut, Sequencing.get_bind, executing, named]
    exact pushNumber_of_admits admits

/-- Numbers with an opcode are never too long for a result. -/
private theorem admitsResult_of_isOpcodeNumber (own : Script.IsOpcodeNumber number)
    (room : 0 < vm.maxElementSize) :
    vm.AdmitsResult number := by
  have short : (ScriptNumber.encode number).length ≤ 1 := by
    rw [ScriptNumber.length_encode, ScriptNumber.encodedLength_le_iff]
    rcases own with rfl | ⟨low, high⟩
    · decide
    · omega
  intro size bounded
  refine Nat.le_trans short ?_
  unfold numberBounds at bounded
  unfold maxElementSize at room
  split at bounded
  · next metered =>
      rw [if_pos metered] at room
      cases bounded
      exact room
  split at bounded
  · cases bounded
    decide
  · cases bounded

/-- The instruction of a number leaves its shortest form on every machine whose
elements are long enough, whether or not the rules ask for shortest pushes. -/
theorem pushes_numberInstruction (above : ScriptNumber.minWord ≤ number)
    (below : number ≤ ScriptNumber.maxWord) (room : 9 ≤ vm.maxElementSize) :
    vm.Pushes (Script.numberInstruction number) (ScriptNumber.encode number) := by
  by_cases own : Script.IsOpcodeNumber number
  · rcases Script.operation_numberInstruction own with ⟨plain, named⟩
    exact pushes_of_operation plain named
      (admitsResult_of_isOpcodeNumber own (Nat.lt_of_lt_of_le (by decide) room))
  · have minimal := Script.isMinimalPush_numberInstruction number
    rw [Script.numberInstruction_of_not_isOpcodeNumber own] at minimal ⊢
    exact pushes_of_data (Script.data_pushInstruction _)
      (Script.opcode_pushInstruction_le _) minimal
      (Nat.le_trans (Script.length_encode_le_nine above below) room)

end Interpreter

namespace Script

/-- What an instruction has to be for a step of building a script. -/
def BuildStep.Becomes : BuildStep -> Instruction -> Prop
  | .opcode code, instruction => instruction.opcode = code ∧ instruction.data = none
  | .number value, instruction =>
      instruction.isMinimalPush = true ∧
        forall vm : Interpreter, 9 ≤ vm.maxElementSize ->
          vm.Pushes instruction (ScriptNumber.encode value)
  | .data bytes, instruction =>
      instruction.data = some bytes ∧ (instruction.isMinimalPush = true ↔ ¬ HasOwnOpcode bytes)

theorem BuildStep.becomes_instruction {step : BuildStep} (buildable : step.IsBuildable) :
    step.Becomes step.instruction := by
  cases step with
  | opcode code => exact ⟨rfl, rfl⟩
  | number value =>
      refine ⟨isMinimalPush_numberInstruction value, ?_⟩
      intro vm room
      exact Interpreter.pushes_numberInstruction buildable.1 buildable.2 room
  | data bytes => exact ⟨data_pushInstruction bytes, isMinimalPush_pushInstruction bytes⟩

/-- A script that was built is well formed, and its instructions are what its steps
say, one for each step. -/
theorem instructions_ofSteps {steps : List BuildStep}
    (buildable : forall step, step ∈ steps -> step.IsBuildable) :
    (ofSteps steps).isWellFormed = true ∧
      List.Forall₂ BuildStep.Becomes steps (ofSteps steps).instructions := by
  have layout := layout_ofSteps buildable
  rw [isWellFormed, instructions, layout]
  refine ⟨rfl, ?_⟩
  rw [List.forall₂_map_right_iff, List.forall₂_same]
  exact fun step member => BuildStep.becomes_instruction (buildable step member)

/-- An opcode, a number that is written out, one with an opcode, and the same byte
as data. -/
theorem instructions_ofSteps_mixed :
    (forall step, step ∈ [.opcode 0x76, .number (-5), .number 16, .data [16]] ->
        BuildStep.IsBuildable step) ∧
      (ofSteps [.opcode 0x76, .number (-5), .number 16, .data [16]]).bytes =
          [0x76, 0x01, 0x85, 0x60, 0x01, 0x10] ∧
        List.Forall₂ BuildStep.Becomes [.opcode 0x76, .number (-5), .number 16, .data [16]]
          (ofSteps [.opcode 0x76, .number (-5), .number 16, .data [16]]).instructions :=
  ⟨by decide, by decide, (instructions_ofSteps (by decide)).2⟩

end Script
end SpendRules

import Mathlib.Tactic.IntervalCases
import SpendRules.Proofs.Script.Layout
import SpendRules.Proofs.Script.Number
import SpendRules.Script.Builder

namespace SpendRules

/-!
# Scripts built from steps

Each step of building a script stands for one instruction.  The bytes of a step are
those of its instruction, and they say where they end.  So the layout of the script
that is built consists of these instructions, wherever the steps stand in it.

What a builder, the reader of instructions and the table of opcodes each take for
the shortest push is compared here.  They agree on numbers.  Data can be pushed with
an opcode that announces its length even if some opcode pushes this data by itself;
then, and only then, the push is not the shortest.
-/

namespace Script

/-- The data is a single byte that some opcode pushes by itself. -/
def HasOwnOpcode (data : Bytes) : Prop :=
  ∃ byte, data = [byte] ∧ (1 ≤ byte ∧ byte ≤ 16 ∨ byte = 0x81)

private def announcedPush (opcode : UInt8) (width : Nat) (data : Bytes) : Instruction :=
  { opcode := opcode, lengthField := Bytes.ofNatLE width data.length, data := some data }

/-- The instruction that pushes data by the shortest opcode that can announce its
length. -/
def pushInstruction (data : Bytes) : Instruction :=
  if data.length ≤ Opcode.pushBytesMax.toNat then
    { opcode := UInt8.ofNat data.length, lengthField := [], data := some data }
  else if data.length ≤ 0xff then announcedPush Opcode.pushDataOne 1 data
  else if data.length ≤ 0xffff then announcedPush Opcode.pushDataTwo 2 data
  else announcedPush Opcode.pushDataFour 4 data

variable {data : Bytes}

theorem bytes_pushInstruction (data : Bytes) : (pushInstruction data).bytes = pushOf data := by
  unfold pushInstruction pushOf
  dsimp only
  split
  · rfl
  split
  · rfl
  split
  all_goals rfl

theorem data_pushInstruction (data : Bytes) : (pushInstruction data).data = some data := by
  unfold pushInstruction
  split
  · rfl
  split
  · rfl
  split
  all_goals rfl

private theorem isComplete_announcedPush {opcode : UInt8} {width : Nat}
    (indirect : ¬ opcode ≤ Opcode.pushBytesMax)
    (announced : Instruction.lengthWidth? opcode = some width) (fits : data.length < 256 ^ width) :
    (announcedPush opcode width data).IsComplete := by
  intro rest
  have split := Instruction.split_announced rest indirect announced
    (Bytes.length_ofNatLE width data.length)
    (Bytes.toNatLE_ofNatLE fits).symm
  rwa [← List.append_assoc] at split

/-- A push is one instruction, when a length field can hold the length of its data. -/
theorem isComplete_pushInstruction (short : data.length < 2 ^ 32) :
    (pushInstruction data).IsComplete := by
  unfold pushInstruction
  by_cases direct : data.length ≤ Opcode.pushBytesMax.toNat
  · have length_eq : data.length = (UInt8.ofNat data.length).toNat := by
      have few : data.length ≤ 75 := direct
      rw [UInt8.toNat_ofNat']
      omega
    rw [if_pos direct]
    exact fun rest => Instruction.split_directPush rest
      (Opcode.ofNat_le_pushBytesMax direct) length_eq
  rw [if_neg direct]
  by_cases one : data.length ≤ 0xff
  · rw [if_pos one]
    exact isComplete_announcedPush (by decide) (by decide) (Nat.lt_succ_of_le one)
  rw [if_neg one]
  by_cases two : data.length ≤ 0xffff
  · rw [if_pos two]
    exact isComplete_announcedPush (by decide) (by decide) (Nat.lt_succ_of_le two)
  · rw [if_neg two]
    exact isComplete_announcedPush (by decide) (by decide) short

/-- Data of two bytes or more has no opcode of its own, so that its push is the
shortest one when its opcode fits the length. -/
private theorem isMinimalPush_of_long {instruction : Instruction}
    (carries : instruction.data = some data) (long : 2 ≤ data.length) :
    instruction.isMinimalPush =
      if data.length ≤ Opcode.pushBytesMax.toNat then instruction.opcode.toNat == data.length
      else if data.length ≤ 0xff then instruction.opcode == Opcode.pushDataOne
      else if data.length ≤ 0xffff then instruction.opcode == Opcode.pushDataTwo
      else true := by
  rcases data with _ | ⟨_, _ | ⟨_, _⟩⟩
  · cases long
  · exact (Nat.not_succ_le_self 1 long).elim
  · unfold Instruction.isMinimalPush
    rw [carries]

private theorem isMinimalPush_pushInstruction_of_long (long : 2 ≤ data.length) :
    (pushInstruction data).isMinimalPush = true := by
  rw [isMinimalPush_of_long (data_pushInstruction data) long]
  unfold pushInstruction
  by_cases direct : data.length ≤ Opcode.pushBytesMax.toNat
  · have few : data.length ≤ 75 := direct
    rw [if_pos direct, if_pos direct, beq_iff_eq, UInt8.toNat_ofNat']
    omega
  rw [if_neg direct, if_neg direct]
  by_cases one : data.length ≤ 0xff
  · rw [if_pos one, if_pos one]
    rfl
  rw [if_neg one, if_neg one]
  by_cases two : data.length ≤ 0xffff
  · rw [if_pos two, if_pos two]
    rfl
  · rw [if_neg two]

/-- A push by length is the shortest one unless the data has an opcode of its own. -/
theorem isMinimalPush_pushInstruction (data : Bytes) :
    (pushInstruction data).isMinimalPush = true ↔ ¬ HasOwnOpcode data := by
  rcases data with _ | ⟨byte, _ | ⟨second, rest⟩⟩
  · exact iff_of_true rfl fun ⟨_, same, _⟩ => nomatch same
  · have minimal : (pushInstruction [byte]).isMinimalPush =
        (!(decide (1 ≤ byte) && decide (byte ≤ 16)) && byte != 0x81) := Bool.and_true _
    have own : HasOwnOpcode [byte] ↔ 1 ≤ byte ∧ byte ≤ 16 ∨ byte = 0x81 := by
      constructor
      · rintro ⟨_, same, numbered⟩
        cases same
        exact numbered
      · exact fun numbered => ⟨byte, rfl, numbered⟩
    rw [minimal, own, not_or, Bool.and_eq_true, bne_iff_ne, ← Bool.decide_and, Bool.not_eq_true',
      decide_eq_false_iff_not]
  · exact iff_of_true (isMinimalPush_pushInstruction_of_long (Nat.le_add_left 2 _))
      fun ⟨_, same, _⟩ => nomatch same

/-! ## Numbers -/

/-- The number has an opcode that pushes it. -/
def IsOpcodeNumber (number : Int) : Prop :=
  number = -1 ∨ 1 ≤ number ∧ number ≤ 16

/-- The instruction that pushes a number: its own opcode, or else a push of its
shortest form, which for zero is empty. -/
def numberInstruction (number : Int) : Instruction :=
  if number = -1 then { opcode := Opcode.minusOne, lengthField := [], data := none }
  else if 1 ≤ number ∧ number ≤ 16 then
    { opcode := UInt8.ofNat (Opcode.one.toNat + number.toNat - 1), lengthField := [], data := none }
  else pushInstruction (ScriptNumber.encode number)

variable {number : Int}

theorem numberInstruction_of_not_isOpcodeNumber (other : ¬ IsOpcodeNumber number) :
    numberInstruction number = pushInstruction (ScriptNumber.encode number) := by
  rcases not_or.mp other with ⟨notMinusOne, notSmall⟩
  unfold numberInstruction
  rw [if_neg notMinusOne, if_neg notSmall]

theorem bytes_numberInstruction (number : Int) :
    (numberInstruction number).bytes = pushNumber number := by
  unfold numberInstruction pushNumber
  by_cases zero : number = 0
  · subst zero
    rfl
  rw [if_neg zero]
  split
  · rfl
  split
  · rfl
  · exact bytes_pushInstruction _

/-- The number's own opcode does nothing but push it. -/
theorem operation_numberInstruction (own : IsOpcodeNumber number) :
    (numberInstruction number).data = none ∧
      Opcode.operation (numberInstruction number).opcode = .pushNumber number := by
  rcases own with rfl | ⟨low, high⟩
  · exact ⟨rfl, rfl⟩
  · interval_cases number <;> exact ⟨rfl, rfl⟩

/-- Signed words take nine bytes at most. -/
theorem length_encode_le_nine (above : ScriptNumber.minWord ≤ number)
    (below : number ≤ ScriptNumber.maxWord) :
    (ScriptNumber.encode number).length ≤ 9 := by
  unfold ScriptNumber.minWord at above
  unfold ScriptNumber.maxWord at below
  rw [ScriptNumber.length_encode, ScriptNumber.encodedLength_le_iff]
  have magnitude : number.natAbs ≤ 2 ^ 63 := by omega
  exact Nat.lt_of_le_of_lt magnitude (by decide)

/-- Elements with an opcode of their own are the shortest forms of the numbers with
one. -/
theorem isOpcodeNumber_of_hasOwnOpcode (own : HasOwnOpcode (ScriptNumber.encode number)) :
    IsOpcodeNumber number := by
  rcases own with ⟨byte, same, numbered⟩
  have meaning := ScriptNumber.value_encode number
  rw [same, ← List.nil_append [byte], ScriptNumber.value_concat] at meaning
  rcases numbered with ⟨low, high⟩ | rfl
  · have positive : 1 ≤ byte.toNat := UInt8.le_iff_toNat_le.mp low
    have small : byte.toNat ≤ 16 := UInt8.le_iff_toNat_le.mp high
    have alone : Bytes.toNatLE [] + 256 ^ ([] : Bytes).length * byte.toNat = byte.toNat := by
      rw [List.length_nil, Nat.pow_zero, Nat.one_mul]
      exact Nat.zero_add _
    rw [if_pos (by omega), alone] at meaning
    exact Or.inr ⟨by omega, by omega⟩
  · exact Or.inl (meaning.symm.trans (by decide))

/-- A number is always pushed in the shortest way. -/
theorem isMinimalPush_numberInstruction (number : Int) :
    (numberInstruction number).isMinimalPush = true := by
  by_cases own : IsOpcodeNumber number
  · unfold Instruction.isMinimalPush
    rw [(operation_numberInstruction own).1]
  · rw [numberInstruction_of_not_isOpcodeNumber own]
    exact (isMinimalPush_pushInstruction _).mpr (mt isOpcodeNumber_of_hasOwnOpcode own)

/-! ## Steps -/

/-- An opcode above those that announce data is an instruction by itself. -/
private theorem isComplete_of_pushDataFour_lt {opcode : UInt8}
    (above : Opcode.pushDataFour < opcode) :
    Instruction.IsComplete { opcode := opcode, lengthField := [], data := none } := by
  have four : 78 < opcode.toNat := UInt8.lt_iff_toNat_lt.mp above
  have differs {announcing : UInt8} (below : announcing.toNat ≤ 78) : opcode ≠ announcing := by
    rintro rfl
    omega
  have indirect : ¬ opcode ≤ Opcode.pushBytesMax := by
    intro direct
    have bound : opcode.toNat ≤ 75 := UInt8.le_iff_toNat_le.mp direct
    omega
  have unannounced : Instruction.lengthWidth? opcode = none := by
    unfold Instruction.lengthWidth?
    rw [if_neg (differs (by decide)), if_neg (differs (by decide)), if_neg (differs (by decide))]
  exact fun rest => Instruction.split_plain rest indirect unannounced

theorem isComplete_numberInstruction (above : ScriptNumber.minWord ≤ number)
    (below : number ≤ ScriptNumber.maxWord) :
    (numberInstruction number).IsComplete := by
  by_cases own : IsOpcodeNumber number
  · rcases own with rfl | ⟨low, high⟩
    · exact isComplete_of_pushDataFour_lt (by decide)
    · interval_cases number <;> exact isComplete_of_pushDataFour_lt (by decide)
  · rw [numberInstruction_of_not_isOpcodeNumber own]
    exact isComplete_pushInstruction
      (Nat.lt_of_le_of_lt (length_encode_le_nine above below) (by decide))

namespace BuildStep

/-- The step can be built: an opcode announces no data, a number is a signed word,
and the length of data fits into four bytes. -/
def IsBuildable : BuildStep -> Prop
  | .opcode code => Opcode.pushDataFour < code
  | .number value => ScriptNumber.minWord ≤ value ∧ value ≤ ScriptNumber.maxWord
  | .data bytes => bytes.length < 2 ^ 32

instance : DecidablePred IsBuildable
  | .opcode code => inferInstanceAs (Decidable (Opcode.pushDataFour < code))
  | .number value =>
      inferInstanceAs (Decidable (ScriptNumber.minWord ≤ value ∧ value ≤ ScriptNumber.maxWord))
  | .data bytes => inferInstanceAs (Decidable (bytes.length < 2 ^ 32))

/-- The instruction that a step stands for. -/
def instruction : BuildStep -> Instruction
  | .opcode code => { opcode := code, lengthField := [], data := none }
  | .number value => numberInstruction value
  | .data bytes => pushInstruction bytes

theorem bytes_instruction (step : BuildStep) : step.instruction.bytes = step.bytes := by
  cases step with
  | opcode code => rfl
  | number value => exact bytes_numberInstruction value
  | data bytes => exact bytes_pushInstruction bytes

theorem isComplete_instruction {step : BuildStep} (buildable : step.IsBuildable) :
    step.instruction.IsComplete := by
  cases step with
  | opcode code => exact isComplete_of_pushDataFour_lt buildable
  | number value => exact isComplete_numberInstruction buildable.1 buildable.2
  | data bytes => exact isComplete_pushInstruction buildable

end BuildStep

/-- A script that was built falls into the instructions of its steps, and nothing is
left. -/
theorem layout_ofSteps {steps : List BuildStep}
    (buildable : forall step, step ∈ steps -> step.IsBuildable) :
    (ofSteps steps).layout = { instructions := steps.map BuildStep.instruction, tail := [] } := by
  refine layout_eq_iff.mpr ⟨?_, ?_, rfl⟩
  · have bytes : BuildStep.bytes = fun step => step.instruction.bytes :=
      funext fun step => step.bytes_instruction.symm
    rw [List.append_nil, List.flatMap_map, ofSteps, bytes]
  · intro instruction member
    rcases List.mem_map.mp member with ⟨step, listed, rfl⟩
    exact BuildStep.isComplete_instruction (buildable step listed)

end Script
end SpendRules

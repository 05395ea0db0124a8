import Mathlib.Data.List.Basic
import SpendRules.Machine.Arithmetic

namespace SpendRules

/-!
# What arithmetic opcodes calculate

The opcodes from 0x8b to 0xa5 are those for arithmetic.  What each of them makes of
its operands is a statement about integers of any size, and is written down here
without regard to how operations are grouped and carried out.  The operands of an
opcode are listed with the deepest one first.

Unless the opcode is retired, exactly one thing is calculated, and the operation that
the opcode asks for computes it.
-/

/-- Division with the quotient rounded toward zero, so that the remainder has the sign
of the dividend. -/
structure TruncatedDivision (dividend divisor quotient remainder : Int) : Prop where
  equation : divisor * quotient + remainder = dividend
  small : remainder.natAbs < divisor.natAbs
  nonneg : 0 ≤ dividend -> 0 ≤ remainder
  nonpos : dividend ≤ 0 -> remainder ≤ 0

theorem truncatedDivision_iff {dividend divisor quotient remainder : Int} :
    TruncatedDivision dividend divisor quotient remainder ↔
      divisor ≠ 0 ∧ dividend.tdiv divisor = quotient ∧ dividend.tmod divisor = remainder := by
  constructor
  · intro division
    have equation := division.equation
    have small := division.small
    have nonzero : divisor ≠ 0 := by omega
    refine ⟨nonzero, ?_⟩
    rcases Int.le_total 0 dividend with sign | sign
    · have remainder_nonneg := division.nonneg sign
      exact (Int.tdiv_tmod_unique sign nonzero).mpr (by omega)
    · have remainder_nonpos := division.nonpos sign
      exact (Int.tdiv_tmod_unique' sign nonzero).mpr (by omega)
  · rintro ⟨nonzero, rfl, rfl⟩
    refine ⟨Int.mul_tdiv_add_tmod dividend divisor, ?_, fun sign => Int.tmod_nonneg divisor sign,
      fun sign => ?_⟩
    · rw [Int.natAbs_tmod]
      exact Nat.mod_lt _ (Int.natAbs_pos.mpr nonzero)
    · have opposite := Int.tmod_nonneg divisor (Int.neg_nonneg_of_nonpos sign)
      rw [Int.neg_tmod] at opposite
      omega

namespace Opcode

/-- The opcode asks whether a condition holds of its operands. -/
inductive Asks : UInt8 -> List Int -> Prop -> Prop
  | not (number : Int) : Asks 0x91 [number] (number = 0)
  | notZero (number : Int) : Asks 0x92 [number] (number ≠ 0)
  | boolAnd (a b : Int) : Asks 0x9a [a, b] (a ≠ 0 ∧ b ≠ 0)
  | boolOr (a b : Int) : Asks 0x9b [a, b] (a ≠ 0 ∨ b ≠ 0)
  | numEqual (a b : Int) : Asks 0x9c [a, b] (a = b)
  | numEqualVerify (a b : Int) : Asks 0x9d [a, b] (a = b)
  | numNotEqual (a b : Int) : Asks 0x9e [a, b] (a ≠ b)
  | lessThan (a b : Int) : Asks 0x9f [a, b] (a < b)
  | greaterThan (a b : Int) : Asks 0xa0 [a, b] (a > b)
  | lessOrEqual (a b : Int) : Asks 0xa1 [a, b] (a ≤ b)
  | greaterOrEqual (a b : Int) : Asks 0xa2 [a, b] (a ≥ b)
  | within (number lower upper : Int) :
    Asks 0xa5 [number, lower, upper] (lower ≤ number ∧ number < upper)

/-- The opcode makes the number, or the failure, of its operands.  Conditions that it
asks for are one when they hold and otherwise zero. -/
inductive Calculates : UInt8 -> List Int -> Except ScriptError Int -> Prop
  | addOne (number : Int) : Calculates 0x8b [number] (.ok (number + 1))
  | subOne (number : Int) : Calculates 0x8c [number] (.ok (number - 1))
  | negate (number : Int) : Calculates 0x8f [number] (.ok (-number))
  | absolute (number : Int) : Calculates 0x90 [number] (.ok (max number (-number)))
  | add (a b : Int) : Calculates 0x93 [a, b] (.ok (a + b))
  | sub (a b : Int) : Calculates 0x94 [a, b] (.ok (a - b))
  | mul (a b : Int) : Calculates 0x95 [a, b] (.ok (a * b))
  | quotient {dividend divisor quotient remainder : Int}
      (division : TruncatedDivision dividend divisor quotient remainder) :
      Calculates 0x96 [dividend, divisor] (.ok quotient)
  | quotientByZero (dividend : Int) : Calculates 0x96 [dividend, 0] (.error .divByZero)
  | remainder {dividend divisor quotient remainder : Int}
      (division : TruncatedDivision dividend divisor quotient remainder) :
      Calculates 0x97 [dividend, divisor] (.ok remainder)
  | remainderByZero (dividend : Int) : Calculates 0x97 [dividend, 0] (.error .modByZero)
  | minimum (a b : Int) : Calculates 0xa3 [a, b] (.ok (min a b))
  | maximum (a b : Int) : Calculates 0xa4 [a, b] (.ok (max a b))
  | holds {opcode : UInt8} {numbers : List Int} {condition : Prop}
    (asks : Asks opcode numbers condition)
      (holds : condition) : Calculates opcode numbers (.ok 1)
  | fails {opcode : UInt8} {numbers : List Int} {condition : Prop}
    (asks : Asks opcode numbers condition)
      (fails : ¬ condition) : Calculates opcode numbers (.ok 0)

/-- How many numbers an arithmetic opcode operates on. -/
def operandCount (opcode : UInt8) : Nat :=
  if opcode ≤ 0x92 then 1 else if opcode = 0xa5 then 3 else 2

end Opcode

/-- The operation computes the number, or the failure, of its operands. -/
inductive Operation.Computes : Operation -> List Int -> Except ScriptError Int -> Prop
  | unary (operation : UnaryOperation) (number : Int) :
      Computes (.unary operation) [number] (.ok (Interpreter.unaryResult operation number))
  | binary (operation : BinaryOperation) (a b : Int) :
      Computes (.binary operation) [a, b] (Interpreter.binaryResult operation a b)
  | numEqualVerify (a b : Int) :
    Computes .numEqualVerify [a, b] (Interpreter.binaryResult .numEqual a b)
  | within (number lower upper : Int) :
      Computes .within [number, lower, upper]
        (.ok (ScriptNumber.ofBool (decide (lower ≤ number) && decide (number < upper))))

theorem Operation.Computes.unique {operation : Operation} {numbers : List Int}
    {first second : Except ScriptError Int} (computes : operation.Computes numbers first)
    (again : operation.Computes numbers second) : first = second := by
  cases computes with
  | unary | binary | numEqualVerify | within =>
      cases again
      rfl

theorem Operation.Computes.of_numEqualVerify {numbers : List Int}
    {calculation : Except ScriptError Int}
    (computes : Operation.numEqualVerify.Computes numbers calculation) :
    ∃ a b, numbers = [a, b] ∧ calculation = .ok (ScriptNumber.ofBool (a == b)) := by
  cases computes with
  | numEqualVerify a b => exact ⟨a, b, rfl, rfl⟩

namespace Opcode

variable {opcode : UInt8} {numbers : List Int}

/-- The condition that is asked for is the one that is decided. -/
private theorem Asks.computes {condition : Prop} (asks : Asks opcode numbers condition) :
    ∃ decided : Bool, (decided = true ↔ condition) ∧
      (operation opcode).Computes numbers (.ok (ScriptNumber.ofBool decided)) := by
  cases asks with
  | not number => exact ⟨number == 0, beq_iff_eq, .unary .isZero number⟩
  | notZero number => exact ⟨number != 0, bne_iff_ne, .unary .isNonzero number⟩
  | boolAnd a b => exact ⟨a != 0 && b != 0, by simp, .binary .boolAnd a b⟩
  | boolOr a b => exact ⟨a != 0 || b != 0, by simp, .binary .boolOr a b⟩
  | numEqual a b => exact ⟨a == b, beq_iff_eq, .binary .numEqual a b⟩
  | numEqualVerify a b => exact ⟨a == b, beq_iff_eq, .numEqualVerify a b⟩
  | numNotEqual a b => exact ⟨a != b, bne_iff_ne, .binary .numNotEqual a b⟩
  | lessThan a b => exact ⟨decide (a < b), decide_eq_true_iff, .binary .lessThan a b⟩
  | greaterThan a b => exact ⟨decide (a > b), decide_eq_true_iff, .binary .greaterThan a b⟩
  | lessOrEqual a b => exact ⟨decide (a ≤ b), decide_eq_true_iff, .binary .lessOrEqual a b⟩
  | greaterOrEqual a b => exact ⟨decide (a ≥ b), decide_eq_true_iff, .binary .greaterOrEqual a b⟩
  | within number lower upper => exact ⟨_, by simp, .within number lower upper⟩

/-- What is calculated is what the operation of the opcode computes. -/
theorem Calculates.computes {calculation : Except ScriptError Int}
    (calculates : Calculates opcode numbers calculation) :
    (operation opcode).Computes numbers calculation := by
  cases calculates with
  | addOne number => exact .unary .addOne number
  | subOne number => exact .unary .subOne number
  | negate number => exact .unary .negate number
  | absolute number =>
      have same : max number (-number) = number.natAbs := by omega
      rw [same]
      exact .unary .absolute number
  | add a b => exact .binary .add a b
  | sub a b => exact .binary .sub a b
  | mul a b => exact .binary .mul a b
  | @quotient dividend divisor quotient remainder division =>
      rcases truncatedDivision_iff.mp division with ⟨nonzero, rfl, _⟩
      have computed : Interpreter.binaryResult .div dividend divisor =
          .ok (dividend.tdiv divisor) := by
        rw [Interpreter.binaryResult, ScriptNumber.quotient?, if_neg nonzero]
        rfl
      exact computed ▸ .binary .div dividend divisor
  | quotientByZero dividend => exact .binary .div dividend 0
  | @remainder dividend divisor quotient remainder division =>
      rcases truncatedDivision_iff.mp division with ⟨nonzero, _, rfl⟩
      have computed : Interpreter.binaryResult .rem dividend divisor =
          .ok (dividend.tmod divisor) := by
        rw [Interpreter.binaryResult, ScriptNumber.remainder?, if_neg nonzero]
        rfl
      exact computed ▸ .binary .rem dividend divisor
  | remainderByZero dividend => exact .binary .rem dividend 0
  | minimum a b => exact .binary .min a b
  | maximum a b => exact .binary .max a b
  | holds asks holds =>
      rcases asks.computes with ⟨decided, same, computes⟩
      rwa [same.mpr holds] at computes
  | fails asks fails =>
      rcases asks.computes with ⟨decided, same, computes⟩
      rwa [Bool.eq_false_iff.mpr fun decided => fails (same.mp decided)] at computes

theorem Calculates.unique {first second : Except ScriptError Int}
    (calculates : Calculates opcode numbers first) (again : Calculates opcode numbers second) :
    first = second :=
  calculates.computes.unique again.computes

/-- A question has an answer. -/
private theorem Asks.exists_calculates {condition : Prop} (asks : Asks opcode numbers condition) :
    ∃ calculation, Calculates opcode numbers calculation := by
  by_cases answer : condition
  · exact ⟨_, .holds asks answer⟩
  · exact ⟨_, .fails asks answer⟩

private theorem exists_calculates_one (first : 0x8b ≤ opcode) (last : opcode ≤ 0x92)
    (known : operation opcode ≠ .disabled) (number : Int) :
    ∃ calculation, Calculates opcode [number] calculation := by
  have listed : opcode = 0x8b ∨ opcode = 0x8c ∨ opcode = 0x8d ∨ opcode = 0x8e ∨ opcode = 0x8f ∨
      opcode = 0x90 ∨ opcode = 0x91 ∨ opcode = 0x92 := by grind
  rcases listed with rfl | rfl | rfl | rfl | rfl | rfl | rfl | rfl
  · exact ⟨_, .addOne number⟩
  · exact ⟨_, .subOne number⟩
  · exact (known rfl).elim
  · exact (known rfl).elim
  · exact ⟨_, .negate number⟩
  · exact ⟨_, .absolute number⟩
  · exact (Asks.not number).exists_calculates
  · exact (Asks.notZero number).exists_calculates

private theorem exists_calculates_two (first : 0x93 ≤ opcode) (last : opcode < 0xa5)
    (known : operation opcode ≠ .disabled) (a b : Int) :
    ∃ calculation, Calculates opcode [a, b] calculation := by
  have listed : opcode = 0x93 ∨ opcode = 0x94 ∨ opcode = 0x95 ∨ opcode = 0x96 ∨ opcode = 0x97 ∨
      opcode = 0x98 ∨ opcode = 0x99 ∨ opcode = 0x9a ∨ opcode = 0x9b ∨ opcode = 0x9c ∨
      opcode = 0x9d ∨ opcode = 0x9e ∨ opcode = 0x9f ∨ opcode = 0xa0 ∨ opcode = 0xa1 ∨
      opcode = 0xa2 ∨ opcode = 0xa3 ∨ opcode = 0xa4 := by grind
  rcases listed with
    rfl | rfl | rfl | rfl | rfl | rfl | rfl | rfl | rfl | rfl | rfl | rfl | rfl | rfl | rfl | rfl |
    rfl | rfl
  · exact ⟨_, .add a b⟩
  · exact ⟨_, .sub a b⟩
  · exact ⟨_, .mul a b⟩
  · by_cases zero : b = 0
    · rw [zero]
      exact ⟨_, .quotientByZero a⟩
    · exact ⟨_, .quotient (truncatedDivision_iff.mpr ⟨zero, rfl, rfl⟩)⟩
  · by_cases zero : b = 0
    · rw [zero]
      exact ⟨_, .remainderByZero a⟩
    · exact ⟨_, .remainder (truncatedDivision_iff.mpr ⟨zero, rfl, rfl⟩)⟩
  · exact (known rfl).elim
  · exact (known rfl).elim
  · exact (Asks.boolAnd a b).exists_calculates
  · exact (Asks.boolOr a b).exists_calculates
  · exact (Asks.numEqual a b).exists_calculates
  · exact (Asks.numEqualVerify a b).exists_calculates
  · exact (Asks.numNotEqual a b).exists_calculates
  · exact (Asks.lessThan a b).exists_calculates
  · exact (Asks.greaterThan a b).exists_calculates
  · exact (Asks.lessOrEqual a b).exists_calculates
  · exact (Asks.greaterOrEqual a b).exists_calculates
  · exact ⟨_, .minimum a b⟩
  · exact ⟨_, .maximum a b⟩

/-- Every arithmetic opcode that is not retired calculates something of as many
operands as it has. -/
theorem exists_calculates (first : 0x8b ≤ opcode) (last : opcode ≤ 0xa5)
    (known : operation opcode ≠ .disabled) (count : numbers.length = operandCount opcode) :
    ∃ calculation, Calculates opcode numbers calculation := by
  unfold operandCount at count
  by_cases one : opcode ≤ 0x92
  · rw [if_pos one] at count
    rcases List.length_eq_one_iff.mp count with ⟨number, rfl⟩
    exact exists_calculates_one first one known number
  rw [if_neg one] at count
  by_cases three : opcode = 0xa5
  · rw [if_pos three] at count
    rcases List.length_eq_three.mp count with ⟨number, lower, upper, rfl⟩
    exact (three ▸ Asks.within number lower upper).exists_calculates
  · rw [if_neg three] at count
    rcases List.length_eq_two.mp count with ⟨a, b, rfl⟩
    exact exists_calculates_two (by grind) (by grind) known a b

/-- All but multiplication keep results about as large as operands. -/
theorem Calculates.natAbs_le {bound : Nat} {result : Int}
    (calculates : Calculates opcode numbers (.ok result)) (notMul : opcode ≠ 0x95)
    (small : forall number, number ∈ numbers -> number.natAbs ≤ bound) :
    result.natAbs ≤ 2 * bound + 1 := by
  cases calculates with
  | addOne number | subOne number | negate number | absolute number =>
      have smallNumber := small number List.mem_cons_self
      omega
  | add a b | sub a b | minimum a b | maximum a b =>
      have smallA := small a List.mem_cons_self
      have smallB := small b (List.mem_cons_of_mem _ List.mem_cons_self)
      omega
  | mul => exact (notMul rfl).elim
  | @quotient dividend divisor quotient remainder division =>
      have smallDividend := small dividend List.mem_cons_self
      rw [← (truncatedDivision_iff.mp division).2.1, Int.natAbs_tdiv]
      have smaller : dividend.natAbs.div divisor.natAbs ≤ dividend.natAbs := Nat.div_le_self _ _
      omega
  | @remainder dividend divisor quotient remainder division =>
      have smallDivisor := small divisor (List.mem_cons_of_mem _ List.mem_cons_self)
      have smaller := division.small
      omega
  | holds | fails => exact Nat.le_trans (by decide) (Nat.le_add_left 1 _)

end Opcode
end SpendRules

import SpendRules.Machine.Arithmetic
import SpendRules.Proofs.Machine.Context
import SpendRules.Proofs.Script.Layout
import SpendRules.Proofs.Script.Number

namespace SpendRules

/-!
# How large results are

Sources of numbers on the stack are constants, results of arithmetic and
answers about the transaction.  Constants are tiny, operands of four bytes give
results of at most eight, and answers are words or lengths, as long as values
and amounts are signed words.
-/

/-- The constants that opcodes push are those between minus one and sixteen. -/
theorem Opcode.natAbs_le_of_operation {opcode : UInt8} {value : Int}
    (pushes : operation opcode = .pushNumber value) :
    value.natAbs ≤ 16 := by
  have small : table.all (fun row =>
      match row.operation with
      | .pushNumber value => decide (value.natAbs ≤ 16)
      | _ => true) = true := by decide
  rcases exists_entry_of_operation pushes nofun nofun with ⟨row, member, _, same⟩
  have bounded := List.all_eq_true.mp small row member
  rw [same] at bounded
  exact of_decide_eq_true bounded

private theorem ScriptNumber.natAbs_ofBool_le (condition : Bool) :
    (ofBool condition).natAbs ≤ 1 := by
  cases condition <;> decide

namespace Interpreter

/-- Results are bounded as operands are, or not at all. -/
theorem numberBounds_cases (vm : Interpreter) :
    (vm.enables .integers64 = true ∨ vm.isMetered = true) ∧
        vm.numberBounds.resultSize = some vm.numberBounds.operandSize ∨
      (vm.enables .integers64 = false ∧ vm.isMetered = false) ∧
        vm.numberBounds.operandSize = 4 ∧ vm.numberBounds.resultSize = none := by
  unfold numberBounds
  cases vm.isMetered with
  | true => exact Or.inl ⟨Or.inr rfl, rfl⟩
  | false =>
      cases vm.enables .integers64 with
      | true => exact Or.inl ⟨Or.inl rfl, rfl⟩
      | false => exact Or.inr ⟨⟨rfl, rfl⟩, rfl, rfl⟩

/-- What is popped as a number is bounded by the length of operands. -/
theorem natAbs_lt_of_popNumber {vm : Interpreter} {number : Int}
    (yielded : vm.popNumber.Yields number) :
    number.natAbs < 2 ^ (8 * vm.numberBounds.operandSize - 1) := by
  rcases yielded with ⟨state, after, success⟩
  rcases Sequencing.bind_eq_ok_iff.mp success with ⟨element, middle, _, read⟩
  exact ScriptNumber.natAbs_lt_of_decode (Step.yields_ofExcept_iff.mp ⟨middle, after, read⟩)

theorem natAbs_unaryResult_lt {number : Int} (small : number.natAbs < 2 ^ 31)
    (operation : UnaryOperation) :
    (unaryResult operation number).natAbs < 2 ^ 63 := by
  cases operation with
  | addOne | subOne | negate | absolute =>
      simp only [unaryResult]
      omega
  | isZero | isNonzero => exact Nat.lt_of_le_of_lt (ScriptNumber.natAbs_ofBool_le _) (by decide)

/-- Multiplication is what comes closest to the bound. -/
theorem natAbs_binaryResult_lt {a b result : Int} (smallA : a.natAbs < 2 ^ 31)
    (smallB : b.natAbs < 2 ^ 31) {operation : BinaryOperation}
    (computed : binaryResult operation a b = .ok result) : result.natAbs < 2 ^ 63 := by
  cases operation with
  | add | sub | min | max =>
      cases computed
      omega
  | mul =>
      cases computed
      rw [Int.natAbs_mul]
      exact Nat.lt_trans (Nat.mul_lt_mul'' smallA smallB) (by decide)
  | div =>
      by_cases zero : b = 0
      · simp [binaryResult, ScriptNumber.quotient?, zero] at computed
      · simp only [binaryResult, ScriptNumber.quotient?, if_neg zero, Option.elim_some,
          Except.ok.injEq] at computed
        rw [← computed, Int.natAbs_tdiv]
        exact Nat.lt_of_le_of_lt (Nat.div_le_self _ _) (Nat.lt_trans smallA (by decide))
  | rem =>
      by_cases zero : b = 0
      · simp [binaryResult, ScriptNumber.remainder?, zero] at computed
      · simp only [binaryResult, ScriptNumber.remainder?, if_neg zero, Option.elim_some,
          Except.ok.injEq] at computed
        rw [← computed, Int.natAbs_tmod]
        exact Nat.lt_of_le_of_lt (Nat.mod_le _ _) (Nat.lt_trans smallA (by decide))
  | boolAnd | boolOr | numEqual | numNotEqual | lessThan | greaterThan | lessOrEqual
  | greaterOrEqual =>
      cases computed
      exact Nat.lt_of_le_of_lt (ScriptNumber.natAbs_ofBool_le _) (by decide)

end Interpreter

/-- The value of the output is a signed word, and the amount of its token, if
there is one, is positive. -/
def Output.HasSignedWords (output : Output) : Prop :=
  output.value.toNat < 2 ^ 63 ∧ ∀ token ∈ output.token, ∀ amount ∈ token.amount, 0 < amount

instance (output : Output) : Decidable output.HasSignedWords :=
  inferInstanceAs (Decidable (_ ∧ _))

/-- All outputs of the context have signed words, and its lists are shorter than
half the range of a word. -/
structure SpendingContext.HasSignedWords (context : SpendingContext) : Prop where
  inputCount : context.tx.inputs.length < 2 ^ 63
  outputCount : context.tx.outputs.length < 2 ^ 63
  outputs : forall output, output ∈ context.outputs -> output.HasSignedWords

/-- Every answer about such a context is a signed word. -/
theorem SpendingContext.HasSignedWords.natAbs_lt {context : SpendingContext}
    (words : context.HasSignedWords) {number : Int} (answers : context.Answers number) :
    number.natAbs < 2 ^ 63 := by
  cases answers with
  | word word =>
      have bound := word.toNat_lt
      omega
  | signedWord word =>
      have below := word.toInt_lt
      have above := word.le_toInt
      omega
  | index =>
      have bound := (List.getElem?_eq_some_iff.mp context.input_eq).1
      have count := words.inputCount
      omega
  | inputCount => exact words.inputCount
  | outputCount => exact words.outputCount
  | value output known => exact (words.outputs output known).1
  | amount output known =>
      cases carried : output.token with
      | none => decide
      | some token =>
          cases counted : token.amount with
          | none =>
              rw [Option.map_some, Option.getD_some, Token.amountOrZero, counted]
              decide
          | some amount =>
              rw [Option.map_some, Option.getD_some, Token.amountOrZero, counted, Option.getD_some]
              have positive := Int64.lt_iff_toInt_lt.mp
                ((words.outputs output known).2 token carried amount counted)
              have bound := amount.toInt_lt
              have zero : (0 : Int64).toInt = 0 := rfl
              omega

end SpendRules

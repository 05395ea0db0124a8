import SpendRules.Proofs.Machine.ExactArithmetic

namespace SpendRules
namespace Interpreter

/-!
# Truth and number

Conditions and the end of a script ask whether an element is true, and arithmetic asks
for the number that it stands for.  Elements for zero can be padded and can carry a
sign, and none of them is true, so the two questions have one answer.

The opcodes 0x92 and 0x91 test whether a number is zero.  What they leave is as true as
their operand was, or the opposite.
-/

variable {vm : Interpreter} {machine : Machine} {raw : Bytes} {rest : List Bytes} {number : Int}

/-- The element is taken for nothing but an operand. -/
private theorem exists_reads_of_unary {unary : UnaryOperation} {after : Machine}
    (found : machine.stack = raw :: rest) (success : vm.unary unary machine = .ok () after) :
    ∃ number, vm.ReadsNumber raw number := by
  rcases Sequencing.bind_eq_ok_iff.mp success with ⟨number, _, popped, _⟩
  rcases Sequencing.bind_eq_ok_iff.mp popped with ⟨top, _, taken, operand⟩
  rcases Step.pop_eq_ok_iff.mp taken with ⟨_, same, _⟩
  cases found.symm.trans same
  exact ⟨number, Step.yields_ofExcept_iff.mp ⟨_, _, operand⟩⟩

/-- A number that is not zero has a byte, so results may have one. -/
private theorem admitsResult_of_reads_test (reads : vm.ReadsNumber raw number) :
    vm.AdmitsResult (ScriptNumber.ofBool (number != 0)) := by
  intro size bounded
  by_cases zero : number = 0
  · subst zero
    exact Nat.zero_le size
  · have one : (ScriptNumber.encode (ScriptNumber.ofBool (number != 0))).length = 1 := by
      rw [bne_iff_ne.mpr zero]
      rfl
    have small := ScriptNumber.natAbs_lt_of_decode reads
    have positive : 0 < number.natAbs := Int.natAbs_pos.mpr zero
    rcases numberBounds_cases vm with ⟨_, same⟩ | ⟨_, _, unbounded⟩
    · rw [same, Option.some.injEq] at bounded
      subst bounded
      rw [one]
      by_contra empty
      rw [Nat.eq_zero_of_not_pos empty] at small
      exact absurd positive (Nat.not_lt_of_le (Nat.le_of_lt_succ small))
    · rw [unbounded] at bounded
      cases bounded

/-- What the tests of a number leave in place of an element on top of the stack. -/
structure TestsTruth (vm : Interpreter) (machine : Machine) (raw : Bytes) (rest : List Bytes)
    (executing : Bool)
    (next : Nat) : Prop where
  /-- The test for a number other than zero accepts every operand. -/
  accepts_iff : (∃ after, vm.perform (Opcode.operation 0x92) executing next machine =
      .ok () after) ↔
    ∃ number, vm.ReadsNumber raw number
  same : forall after, vm.perform (Opcode.operation 0x92) executing next machine = .ok () after ->
    ∃ element cost, after = { machine with stack := element :: rest, metrics.opCost := cost } ∧
      ScriptNumber.isTrue element = ScriptNumber.isTrue raw
  opposite : forall after, vm.perform (Opcode.operation 0x91) executing next machine =
      .ok () after ->
    ∃ element cost, after = { machine with stack := element :: rest, metrics.opCost := cost } ∧
      ScriptNumber.isTrue element = !ScriptNumber.isTrue raw
  /-- The other test accepts the same operands, as soon as results may have a byte. -/
  together : vm.AdmitsResult 1 -> ((∃ number, vm.ReadsNumber raw number) ↔
    ∃ after, vm.perform (Opcode.operation 0x91) executing next machine = .ok () after)

section

variable (found : machine.stack = raw :: rest) (executing : Bool) (next : Nat)

include found

/-- What is left of an operand is the truth of the test. -/
private theorem leaves_test {unary : UnaryOperation} {test : Bool} {after : Machine}
    (computes : unaryResult unary number = ScriptNumber.ofBool test)
    (reads : vm.ReadsNumber raw number)
    (success : vm.perform (.unary unary) executing next machine = .ok () after) :
    ∃ element cost, after = { machine with stack := element :: rest, metrics.opCost := cost } ∧
      ScriptNumber.isTrue element = test := by
  have computed := Operation.Computes.unary unary number
  have operands : List.Forall₂ vm.ReadsNumber [raw] [number] := .cons reads .nil
  rw [computes] at computed
  rcases leaves_of_reads computed nofun found operands executing next with ⟨tooLong, left⟩
  by_cases admits : vm.AdmitsResult (ScriptNumber.ofBool test)
  · rcases left admits with ⟨cost, ran⟩
    cases ran.symm.trans success
    refine ⟨_, cost, rfl, ?_⟩
    cases test <;> rfl
  · rcases tooLong admits with ⟨_, stopped⟩
    cases stopped.symm.trans success

/-- A test succeeds on an operand if its result is admitted. -/
private theorem exists_after_test {unary : UnaryOperation} (reads : vm.ReadsNumber raw number)
    (admits : vm.AdmitsResult (unaryResult unary number)) :
    ∃ after, vm.perform (.unary unary) executing next machine = .ok () after := by
  have operands : List.Forall₂ vm.ReadsNumber [raw] [number] := .cons reads .nil
  have computed := Operation.Computes.unary unary number
  rcases (leaves_of_reads computed nofun found operands executing next).2 admits with ⟨_, success⟩
  exact ⟨_, success⟩

private theorem testsTruth : vm.TestsTruth machine raw rest executing next := by
  have truth {number : Int} (reads : vm.ReadsNumber raw number) : ScriptNumber.isTrue raw =
      (number != 0) := by
    rw [Bool.eq_iff_iff, ScriptNumber.isTrue_iff,
      (ScriptNumber.decode_eq_ok_iff.mp reads).2.2, bne_iff_ne]
  refine ⟨⟨?_, ?_⟩, ?_, ?_, fun admits => ⟨?_, ?_⟩⟩
  · rintro ⟨after, success⟩
    exact exists_reads_of_unary found success
  · rintro ⟨number, reads⟩
    exact exists_after_test found executing next reads (admitsResult_of_reads_test reads)
  · intro after success
    rcases exists_reads_of_unary found success with ⟨number, reads⟩
    rw [truth reads]
    exact leaves_test found executing next rfl reads success
  · intro after success
    rcases exists_reads_of_unary found success with ⟨number, reads⟩
    rw [truth reads, bne, Bool.not_not]
    exact leaves_test found executing next rfl reads success
  · rintro ⟨number, reads⟩
    refine exists_after_test found executing next reads ?_
    rw [unaryResult]
    cases number == 0 with
    | true => exact admits
    | false => exact fun size _ => Nat.zero_le size
  · rintro ⟨after, success⟩
    exact exists_reads_of_unary found success

end

/-- An element is true exactly when its number is not zero.  So the shortest form of an
element is as true as the element, and the tests of a number leave its truth or the
opposite. -/
theorem truth_of_number :
    (forall element : Bytes,
      (ScriptNumber.isTrue element = true ↔ ScriptNumber.value element ≠ 0) ∧
        ScriptNumber.isTrue element = ScriptNumber.isTrue (ScriptNumber.minimize element)) ∧
    forall (vm : Interpreter) (machine : Machine) (raw : Bytes) (rest : List Bytes)
      (executing : Bool) (next : Nat),
      vm.TestsTruth { machine with stack := raw :: rest } raw rest executing next := by
  constructor
  · intro element
    exact ⟨ScriptNumber.isTrue_iff,
      ScriptNumber.isTrue_congr (ScriptNumber.value_minimize element).symm⟩
  · intro vm machine raw rest executing next
    exact testsTruth rfl executing next

end Interpreter
end SpendRules

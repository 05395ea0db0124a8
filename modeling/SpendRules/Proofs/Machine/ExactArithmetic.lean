import Mathlib.Data.List.Forall2
import SpendRules.Machine.Evaluation
import SpendRules.Proofs.Machine.Arithmetic
import SpendRules.Proofs.Machine.Calculation
import SpendRules.Proofs.Machine.Numbers
import SpendRules.Proofs.Script.Layout

namespace SpendRules
namespace Interpreter

/-!
# Arithmetic is exact or fails

When the elements on top of the stack are operands, an arithmetic opcode replaces
them by the shortest form of what it calculates of their numbers, and nothing in
between bounds or wraps anything.  It fails only when nothing is calculated, when the
result is longer than the rules permit, or when it is required to be true and is not.

Whenever the rules bound results, they bound them by the length of operands, so that
results are operands again.  Otherwise operands have four bytes at most, there is no
multiplication, and a fifth byte is enough for every result.
-/

variable {vm : Interpreter} {machine : Machine} {operation : Operation} {operands : List Bytes}
  {numbers : List Int}
  {rest : List Bytes} {calculation : Except ScriptError Int} {result : Int}

/-! ## Bounds on operands and results -/

private theorem natAbs_lt_of_reads (reads : List.Forall₂ vm.ReadsNumber operands numbers) :
    forall number, number ∈ numbers ->
      number.natAbs < 2 ^ (8 * vm.numberBounds.operandSize - 1) := by
  induction reads with
  | nil => exact fun _ impossible => nomatch impossible
  | cons read _ ih =>
      intro number member
      rcases List.mem_cons.mp member with rfl | member
      · exact ScriptNumber.natAbs_lt_of_decode read
      · exact ih number member

/-- A result that is admitted under a bound is an operand, even where operands are
demanded to be in their shortest form. -/
theorem decode_encode_of_admits (wide : vm.enables .integers64 = true ∨ vm.isMetered = true)
    (admits : vm.AdmitsResult result) (requireMinimal : Bool) :
    ScriptNumber.decode (ScriptNumber.encode result) requireMinimal vm.numberBounds.operandSize =
      .ok result := by
  rcases numberBounds_cases vm with ⟨_, bounded⟩ | ⟨⟨narrow, unmetered⟩, _⟩
  · exact ScriptNumber.decode_eq_ok_iff.mpr
      ⟨admits _ bounded, fun _ => ScriptNumber.isMinimal_encode result,
        ScriptNumber.value_encode result⟩
  · rw [narrow, unmetered] at wide
    exact wide.elim nofun nofun

/-- Without a bound on results, they have five bytes at most. -/
theorem length_encode_le_five {opcode : UInt8} (narrow : vm.enables .integers64 = false)
    (unmetered : vm.isMetered = false) (available : vm.isDisabled opcode = false)
    (reads : List.Forall₂ vm.ReadsNumber operands numbers)
    (calculates : Opcode.Calculates opcode numbers (.ok result)) :
    (ScriptNumber.encode result).length ≤ 5 := by
  have notMul : opcode ≠ 0x95 := by
    rintro rfl
    unfold isDisabled at available
    rw [narrow, unmetered] at available
    exact nomatch available
  have size : vm.numberBounds.operandSize = 4 := by
    rcases numberBounds_cases vm with ⟨wide, _⟩ | ⟨_, size, _⟩
    · rw [narrow, unmetered] at wide
      exact wide.elim nofun nofun
    · exact size
  have small : forall number, number ∈ numbers -> number.natAbs ≤ 2 ^ 31 := by
    intro number member
    have bound := natAbs_lt_of_reads reads number member
    rw [size] at bound
    exact Nat.le_of_lt bound
  have bound := calculates.natAbs_le notMul small
  rw [ScriptNumber.length_encode, ScriptNumber.encodedLength_le_iff]
  exact Nat.lt_of_le_of_lt bound (by decide)

/-! ## How operations use the stack -/

private theorem unary_of_reads {element : Bytes} {number : Int} (unary : UnaryOperation)
    (found : machine.stack = element :: rest) (reads : vm.ReadsNumber element number) :
    vm.unary unary machine =
      vm.pushNumber (unaryResult unary number) { machine with stack := rest } := by
  unfold Interpreter.unary
  rw [Sequencing.bind_of_ok (popNumber_of_reads found reads)]

private theorem popNumbers_of_reads {deeper top : Bytes} {a b : Int}
    (next : Int -> Int -> Step Unit) (found : machine.stack = top :: deeper :: rest)
    (readsA : vm.ReadsNumber deeper a) (readsB : vm.ReadsNumber top b) :
    (do let b <- vm.popNumber
        let a <- vm.popNumber
        next a b) machine = next a b { machine with stack := rest } := by
  rw [Sequencing.bind_of_ok (popNumber_of_reads found readsB),
    Sequencing.bind_of_ok (popNumber_of_reads rfl readsA)]

/-- Costly operations are charged for before their operands are taken. -/
private theorem binary_of_reads {deeper top : Bytes} {a b : Int} (binary : BinaryOperation)
    (found : machine.stack = top :: deeper :: rest) (readsA : vm.ReadsNumber deeper a)
    (readsB : vm.ReadsNumber top b) :
    ∃ cost, vm.binary binary machine =
      (Step.ofExcept (binaryResult binary a b) >>= vm.pushNumber)
        { machine with stack := rest, metrics.opCost := cost } := by
  have enough : 2 ≤ machine.stack.length := by
    rw [found]
    exact Nat.le_add_left 2 _
  unfold Interpreter.binary
  rw [Sequencing.bind_of_ok (require_of_le enough)]
  by_cases quadratic : isQuadratic binary = true
  · have onTop : Step.elementAt 0 machine = .ok top machine :=
      Step.elementAt_eq_ok_iff.mpr ⟨by rw [found]; rfl, rfl⟩
    have below : Step.elementAt 1 machine = .ok deeper machine :=
      Step.elementAt_eq_ok_iff.mpr ⟨by rw [found]; rfl, rfl⟩
    rw [if_pos quadratic, Sequencing.bind_of_ok onTop, Sequencing.bind_of_ok below,
      Sequencing.bind_of_ok (charge_eq_ok_iff.mpr rfl)]
    exact ⟨_, popNumbers_of_reads _ found readsA readsB⟩
  · rw [if_neg quadratic]
    exact ⟨_, popNumbers_of_reads _ found readsA readsB⟩

/-- A number that lies between two others is not compared with zeros only, so that
operands may have a byte, and so may the answer. -/
private theorem admitsResult_of_reads {number lower upper : Int}
    (reads : List.Forall₂ vm.ReadsNumber operands [number, lower, upper]) :
    vm.AdmitsResult (ScriptNumber.ofBool (decide (lower ≤ number) && decide (number < upper))) := by
  intro size bounded
  by_cases inside : lower ≤ number ∧ number < upper
  · have nonempty : 0 < vm.numberBounds.operandSize := by
      by_contra empty
      have zeros := natAbs_lt_of_reads reads
      rw [Nat.eq_zero_of_not_pos empty] at zeros
      have numberZero := zeros number (by simp)
      have upperZero := zeros upper (by simp)
      omega
    rcases numberBounds_cases vm with ⟨_, same⟩ | ⟨_, _, unbounded⟩
    · rw [same, Option.some.injEq] at bounded
      rw [decide_eq_true inside.1, decide_eq_true inside.2, ← bounded]
      exact nonempty
    · rw [unbounded] at bounded
      cases bounded
  · have outside : (decide (lower ≤ number) && decide (number < upper)) = false := by
      rw [← Bool.decide_and]
      exact decide_eq_false inside
    rw [outside]
    exact Nat.zero_le size

private theorem pushBool_of_admits {condition : Bool}
    (admits : vm.AdmitsResult (ScriptNumber.ofBool condition)) :
    vm.pushBool condition machine = vm.pushNumber (ScriptNumber.ofBool condition) machine := by
  rw [pushNumber_of_admits admits]
  cases condition with
  | true => rfl
  | false => rfl

private theorem within_of_reads {element lowest highest : Bytes} {number lower upper : Int}
    (found : machine.stack = highest :: lowest :: element :: rest)
    (reads : List.Forall₂ vm.ReadsNumber [element, lowest, highest] [number, lower, upper]) :
    vm.within machine =
      vm.pushNumber (ScriptNumber.ofBool (decide (lower ≤ number) && decide (number < upper)))
      { machine with stack := rest } := by
  have enough : 3 ≤ machine.stack.length := by
    rw [found]
    exact Nat.le_add_left 3 _
  rw [← pushBool_of_admits (admitsResult_of_reads reads)]
  rcases reads with _ | ⟨readNumber, _ | ⟨readLower, _ | ⟨readUpper, _⟩⟩⟩
  unfold Interpreter.within
  rw [Sequencing.bind_of_ok (require_of_le enough),
    Sequencing.bind_of_ok (popNumber_of_reads found readUpper),
    Sequencing.bind_of_ok (popNumber_of_reads rfl readLower),
    Sequencing.bind_of_ok (popNumber_of_reads rfl readNumber)]

/-- The operands are taken, what is computed is checked, and what passes is left. -/
private theorem perform_of_reads (computes : operation.Computes numbers calculation)
    (unverified : operation ≠ .numEqualVerify) (found : machine.stack = operands.reverse ++ rest)
    (reads : List.Forall₂ vm.ReadsNumber operands numbers) (executing : Bool) (next : Nat) :
    ∃ cost, vm.perform operation executing next machine =
      (Step.ofExcept calculation >>= vm.pushNumber)
        { machine with stack := rest, metrics.opCost := cost } := by
  cases computes with
  | unary operation number =>
      rcases reads with _ | ⟨read, _ | _⟩
      exact ⟨_, unary_of_reads operation found read⟩
  | binary operation a b =>
      rcases reads with _ | ⟨readA, _ | ⟨readB, _ | _⟩⟩
      exact binary_of_reads operation found readA readB
  | numEqualVerify a b => exact (unverified rfl).elim
  | within number lower upper =>
      rcases reads with _ | ⟨readNumber, _ | ⟨readLower, _ | ⟨readUpper, _ | _⟩⟩⟩
      exact ⟨_, within_of_reads found (.cons readNumber (.cons readLower (.cons readUpper .nil)))⟩

/-! ## How results are left -/

private theorem exists_push_of_admits (admits : vm.AdmitsResult result) :
    ∃ cost, vm.pushNumber result machine = .ok ()
      { machine with
        stack := ScriptNumber.encode result :: machine.stack
        metrics.opCost := cost } := by
  rw [pushNumber_of_admits admits]
  exact ⟨_, push_eq_ok_iff.mpr rfl⟩

private theorem verifyTop_of_untrue {top : Bytes} {failure : ScriptError}
    (found : machine.stack = top :: rest) (untrue : ScriptNumber.isTrue top = false) :
    Step.verifyTop failure machine = .error failure machine := by
  have onTop : Step.elementAt 0 machine = .ok top machine :=
    Step.elementAt_eq_ok_iff.mpr ⟨by rw [found]; rfl, rfl⟩
  unfold Step.verifyTop
  rw [Sequencing.bind_of_ok onTop, untrue]
  rfl

/-- What is computed is left unless it is too long. -/
theorem leaves_of_reads (computes : operation.Computes numbers (.ok result))
    (unverified : operation ≠ .numEqualVerify) (found : machine.stack = operands.reverse ++ rest)
    (reads : List.Forall₂ vm.ReadsNumber operands numbers) (executing : Bool) (next : Nat) :
    (¬ vm.AdmitsResult result ->
        (vm.perform operation executing next).StopsWith machine .invalidNumberRange) ∧
      (vm.AdmitsResult result -> ∃ cost, vm.perform operation executing next machine =
        .ok ()
          { machine with
            stack := ScriptNumber.encode result :: rest
            metrics.opCost := cost }) := by
  rcases perform_of_reads computes unverified found reads executing next with ⟨_, performed⟩
  change _ = vm.pushNumber result _ at performed
  constructor
  · intro refuses
    rcases stopsWith_pushNumber refuses with ⟨after, stopped⟩
    exact ⟨after, performed.trans stopped⟩
  · intro admits
    rcases exists_push_of_admits admits with ⟨cost, pushed⟩
    exact ⟨cost, performed.trans pushed⟩

/-- The comparison that is verified leaves nothing if the numbers are equal, and
otherwise stops.  Its result has been checked like any other before. -/
private theorem numEqualVerify_of_reads
    {a b : Int} (found : machine.stack = operands.reverse ++ rest)
    (reads : List.Forall₂ vm.ReadsNumber operands [a, b]) :
    let result := ScriptNumber.ofBool (a == b)
    (¬ vm.AdmitsResult result -> vm.numEqualVerify.StopsWith machine .invalidNumberRange) ∧
      (vm.AdmitsResult result ->
        (result = 1 ∧ ∃ cost, vm.numEqualVerify machine =
          .ok () { machine with stack := rest, metrics.opCost := cost }) ∨
        (result = 0 ∧ vm.numEqualVerify.StopsWith machine .numEqualVerify)) := by
  rcases reads with _ | ⟨readA, _ | ⟨readB, _ | _⟩⟩
  rcases binary_of_reads .numEqual found readA readB with ⟨_, compared⟩
  change vm.binary .numEqual machine = vm.pushNumber (ScriptNumber.ofBool (a == b)) _ at compared
  dsimp only
  generalize (a == b) = equal at compared ⊢
  constructor
  · intro refuses
    rcases stopsWith_pushNumber refuses with ⟨after, stopped⟩
    exact ⟨after, Sequencing.bind_of_error (compared.trans stopped) _⟩
  · intro admits
    rcases exists_push_of_admits admits with ⟨cost, pushed⟩
    have verifies := Sequencing.bind_of_ok (compared.trans pushed) fun _ =>
      Step.verifyTop .numEqualVerify
    cases equal with
    | true => exact Or.inl ⟨rfl, cost,
      verifies.trans (Step.verifyTop_eq_ok_iff.mpr ⟨_, rest, rfl, rfl, rfl⟩)⟩
    | false => exact Or.inr ⟨rfl, _, verifies.trans (verifyTop_of_untrue rfl rfl)⟩

private theorem numEqualVerify_iff {opcode : UInt8} :
    Opcode.operation opcode = .numEqualVerify ↔ opcode = 0x9d := by
  have rows : Opcode.table.all (fun row => row.operation != .numEqualVerify || row.code == 0x9d) =
      true := by decide
  constructor
  · intro verifies
    rcases Opcode.exists_entry_of_operation verifies nofun nofun with ⟨row, member, rfl, same⟩
    have listed := List.all_eq_true.mp rows row member
    rw [same] at listed
    exact eq_of_beq listed
  · rintro rfl
    rfl

/-- The opcode leaves the exact result on the rest of the stack, in its shortest form,
unless the rules bound results and it is longer. -/
structure LeavesExactly (vm : Interpreter) (opcode : UInt8) (step : Step Unit) (machine : Machine)
    (rest : List Bytes) (result : Int) : Prop where
  tooLong : ¬ vm.AdmitsResult result -> step.StopsWith machine .invalidNumberRange
  left : vm.AdmitsResult result -> opcode ≠ 0x9d -> ∃ element cost,
    step machine = .ok () { machine with stack := element :: rest, metrics.opCost := cost } ∧
      ScriptNumber.value element = result ∧ element = ScriptNumber.encode result
  /-- The comparison that is verified leaves nothing instead, or stops. -/
  verified : vm.AdmitsResult result -> opcode = 0x9d ->
    (result = 1 ∧ ∃ cost,
        step machine = .ok () { machine with stack := rest, metrics.opCost := cost }) ∨
      (result = 0 ∧ step.StopsWith machine .numEqualVerify)
  /-- Results under a bound are operands again, whatever form operands must have. -/
  operandAgain : vm.AdmitsResult result -> vm.enables .integers64 = true ∨ vm.isMetered = true ->
    forall requireMinimal, ScriptNumber.decode (ScriptNumber.encode result) requireMinimal
      vm.numberBounds.operandSize = .ok result
  fiveBytes : vm.enables .integers64 = false -> vm.isMetered = false ->
    (ScriptNumber.encode result).length ≤ 5

/-- Arithmetic is exact or fails.  Of operands there is exactly one calculation.  When
it fails, so does the opcode, and when it has a result, the opcode leaves exactly this. -/
theorem perform_isExact {opcode : UInt8} (first : 0x8b ≤ opcode) (last : opcode ≤ 0xa5)
    (available : vm.isDisabled opcode = false)
    (count : operands.length = Opcode.operandCount opcode)
    (found : machine.stack = operands.reverse ++ rest)
    (reads : List.Forall₂ vm.ReadsNumber operands numbers)
    (executing : Bool) (next : Nat) :
    let step := vm.perform (Opcode.operation opcode) executing next
    (∃! calculation, Opcode.Calculates opcode numbers calculation) ∧
      (forall failure, Opcode.Calculates opcode numbers (.error failure) ->
        step.StopsWith machine failure) ∧
      forall result, Opcode.Calculates opcode numbers (.ok result) ->
        vm.LeavesExactly opcode step machine rest result := by
  have known : Opcode.operation opcode ≠ .disabled := by
    intro retired
    unfold isDisabled Opcode.isDisabled at available
    rw [retired] at available
    cases available
  rcases Opcode.exists_calculates first last known (reads.length_eq.symm.trans count) with
    ⟨calculation, calculates⟩
  intro step
  refine ⟨⟨calculation, calculates, fun other also => also.unique calculates⟩, ?_, ?_⟩
  · intro failure fails
    have unverified : Opcode.operation opcode ≠ .numEqualVerify := by
      intro verifies
      have computes := fails.computes
      rw [verifies] at computes
      rcases computes.of_numEqualVerify with ⟨_, _, _, impossible⟩
      cases impossible
    rcases perform_of_reads fails.computes unverified found reads executing next with ⟨_, stopped⟩
    exact ⟨_, stopped⟩
  intro result yields
  have operandAgain (admits : vm.AdmitsResult result) :=
    fun wide => decode_encode_of_admits wide admits
  have fiveBytes := fun narrow unmetered =>
    length_encode_le_five narrow unmetered available reads yields
  by_cases verifies : opcode = 0x9d
  · have operation_eq := numEqualVerify_iff.mpr verifies
    have performs : step = vm.numEqualVerify := by
      change vm.perform (Opcode.operation opcode) executing next = _
      rw [operation_eq]
      rfl
    rcases (operation_eq ▸ yields.computes).of_numEqualVerify with ⟨a, b, rfl, same⟩
    cases same
    rw [performs]
    rcases numEqualVerify_of_reads found reads with ⟨tooLong, verified⟩
    exact ⟨tooLong, fun _ other => (other verifies).elim, fun admits _ => verified admits,
      operandAgain, fiveBytes⟩
  · rcases leaves_of_reads yields.computes (mt numEqualVerify_iff.mp verifies) found
      reads executing next with
      ⟨tooLong, left⟩
    refine ⟨tooLong, ?_, fun _ same => (verifies same).elim, operandAgain, fiveBytes⟩
    intro admits _
    rcases left admits with ⟨cost, left⟩
    exact ⟨_, cost, left, ScriptNumber.value_encode result, rfl⟩

private def wideInterpreter : Interpreter where
  rules := .ofFlags Rule.integers64.publicMask
  verifier _ := .ok false

/-- Minus seven, and two above it. -/
private def dividingMachine : Machine where
  stack := [[2], [0x87], [9]]
  script := { bytes := [] }

/-- Minus seven divided by two is minus three, which can be an operand. -/
theorem perform_isExact_minusSeven :
    (∃ cost, wideInterpreter.perform (Opcode.operation 0x96) true 0 dividingMachine =
      .ok () { dividingMachine with stack := [[0x83], [9]], metrics.opCost := cost }) ∧
      ScriptNumber.decode [0x83] true 8 = .ok (-3) := by
  have found : dividingMachine.stack = [[0x87], [2]].reverse ++ [[9]] := rfl
  have reads : List.Forall₂ wideInterpreter.ReadsNumber [[0x87], [2]] [-7, 2] :=
    .cons rfl (.cons rfl .nil)
  have divides : TruncatedDivision (-7) 2 (-3) (-1) := truncatedDivision_iff.mpr (by decide)
  have exact := (perform_isExact (by decide) (by decide) (by decide) rfl found reads true 0).2.2 _
    (.quotient divides)
  have admits : wideInterpreter.AdmitsResult (-3) :=
    fun size bounded => Option.some.inj bounded ▸ by decide
  rcases exact.left admits (by decide) with ⟨_, cost, left, _, rfl⟩
  exact ⟨⟨cost, left⟩, exact.operandAgain admits (Or.inl rfl) true⟩

end Interpreter
end SpendRules

import SpendRules.Proofs.Machine.Run

namespace SpendRules

/-!
# What a step consists of

A success of a step says what the step has changed.  The steps that operations
are put together from come first.  An instruction is then permitted, carried out
and checked against the limits; the first of these only charges and counts, and
the last one changes nothing.
-/

namespace Step

variable {machine after : Machine}

theorem stack_bind {α : Type} (next : List Bytes -> Step α) :
    (stack >>= next) machine = next machine.stack machine := rfl

theorem ofExcept_bind_eq_ok_iff {α β : Type} {result : Except ScriptError α} {next : α -> Step β}
    {value : β} :
    (ofExcept result >>= next) machine = .ok value after ↔
      ∃ found, result = .ok found ∧ next found machine = .ok value after := by
  cases result with
  | ok found =>
      simp only [Except.ok.injEq, exists_eq_left']
      rfl
  | error failure => exact iff_of_false Sequencing.throw_ne_ok nofun

/-- A check leaves the machine to what follows it as it is. -/
theorem ofExcept_bind_congr {α β : Type} {result : Except ScriptError α} {next next' : α -> Step β}
    (same : forall value, next value machine = next' value machine) :
    (ofExcept result >>= next) machine = (ofExcept result >>= next') machine := by
  cases result with
  | ok value => exact same value
  | error failure => rfl

/-- A look at the machine may come before a check that does not change it. -/
theorem ofExcept_bind_get {α β : Type} (result : Except ScriptError α)
    (next : α -> Machine -> Step β) :
    (ofExcept result >>= fun value => get >>= next value) =
      get >>= fun machine => ofExcept result >>= fun value => next value machine := by
  cases result with
  | ok value => rfl
  | error failure => rfl

theorem setStack_eq_ok_iff {stack : List Bytes} :
    setStack stack machine = .ok () after ↔ { machine with stack := stack } = after :=
  Sequencing.modify_eq_ok_iff

theorem pop_eq_ok_iff {top : Bytes} :
    pop machine = .ok top after ↔
      ∃ rest, machine.stack = top :: rest ∧ { machine with stack := rest } = after := by
  rw [pop, stack_bind]
  cases machine.stack with
  | nil =>
      constructor
      · intro impossible
        exact (Sequencing.throw_ne_ok impossible).elim
      · rintro ⟨_, impossible, _⟩
        cases impossible
  | cons found rest =>
      dsimp only
      rw [Sequencing.bind_eq_ok_iff]
      constructor
      · rintro ⟨_, _, replaced, returned⟩
        rcases Sequencing.pure_eq_ok_iff.mp returned with ⟨rfl, rfl⟩
        exact ⟨rest, rfl, setStack_eq_ok_iff.mp replaced⟩
      · rintro ⟨_, same, rfl⟩
        cases same
        exact ⟨(), _, setStack_eq_ok_iff.mpr rfl, Sequencing.pure_eq_ok_iff.mpr ⟨rfl, rfl⟩⟩

theorem elementAt_eq_ok_iff {index : Nat} {element : Bytes} :
    elementAt index machine = .ok element after ↔
      machine.stack[index]? = some element ∧ machine = after := by
  rw [elementAt, stack_bind]
  cases machine.stack[index]? with
  | none =>
      constructor
      · intro impossible
        exact (Sequencing.throw_ne_ok impossible).elim
      · intro impossible
        cases impossible.1
  | some found =>
      rw [Option.some.injEq]
      exact Sequencing.pure_eq_ok_iff

theorem verifyTop_eq_ok_iff {failure : ScriptError} :
    verifyTop failure machine = .ok () after ↔ ∃ top rest, machine.stack = top :: rest ∧
      ScriptNumber.isTrue top = true ∧ { machine with stack := rest } = after := by
  rw [verifyTop, Sequencing.bind_eq_ok_iff]
  constructor
  · rintro ⟨top, middle, taken, verified⟩
    rcases elementAt_eq_ok_iff.mp taken with ⟨onTop, rfl⟩
    by_cases holds : ScriptNumber.isTrue top = true
    · rw [if_pos holds] at verified
      rcases Sequencing.bind_eq_ok_iff.mp verified with ⟨found, _, popped, returned⟩
      rw [(Sequencing.pure_eq_ok_iff.mp returned).2] at popped
      rcases pop_eq_ok_iff.mp popped with ⟨rest, stack, same⟩
      rw [stack] at onTop
      cases onTop
      exact ⟨top, rest, stack, holds, same⟩
    · rw [if_neg holds] at verified
      exact (Sequencing.throw_ne_ok verified).elim
  · rintro ⟨top, rest, stack, holds, same⟩
    refine ⟨top, machine, elementAt_eq_ok_iff.mpr ⟨by rw [stack]; rfl, rfl⟩, ?_⟩
    rw [if_pos holds]
    refine Sequencing.bind_eq_ok_iff.mpr ⟨top, after, pop_eq_ok_iff.mpr ⟨rest, stack, same⟩, ?_⟩
    exact Sequencing.pure_eq_ok_iff.mpr ⟨rfl, rfl⟩

end Step

namespace Interpreter

variable {vm : Interpreter} {instruction : Instruction} {next : Nat} {machine after : Machine}

theorem charge_eq_ok_iff {cost : Nat} :
    vm.charge cost machine = .ok () after ↔
      { machine with
        metrics.opCost := machine.metrics.opCost + if vm.isMetered then cost else 0 } = after := by
  rw [charge]
  cases vm.isMetered with
  | true => exact Sequencing.modify_eq_ok_iff
  | false => exact Sequencing.pure_eq_ok_iff.trans (and_iff_right rfl)

theorem push_eq_ok_iff {element : Bytes} :
    vm.push element machine = .ok () after ↔
      { machine with
        stack := element :: machine.stack
        metrics.opCost :=
          machine.metrics.opCost + if vm.isMetered then element.length else 0 } = after := by
  rw [push, Sequencing.bind_eq_ok_iff]
  constructor
  · rintro ⟨_, _, charged, pushed⟩
    rw [← charge_eq_ok_iff.mp charged] at pushed
    exact Sequencing.modify_eq_ok_iff.mp pushed
  · intro same
    exact ⟨(), _, charge_eq_ok_iff.mpr rfl, Sequencing.modify_eq_ok_iff.mpr same⟩

/-- The blocks that are hashed for a message of the given length. -/
def hashedBlocks (length : Nat) (twofold : Bool) : Nat :=
  Hash.digestIterations length + if twofold then 1 else 0

theorem chargeHash_eq_ok_iff {length : Nat} {twofold : Bool} :
    vm.chargeHash length twofold machine = .ok () after ↔
      { machine with
        metrics.hashIterations := machine.metrics.hashIterations + hashedBlocks length twofold
        metrics.opCost := machine.metrics.opCost +
          if vm.isMetered then hashedBlocks length twofold * 64 else 0 } = after ∧
      (vm.isMetered = true -> after.metrics.hashIterations ≤ vm.hashIterationLimit) := by
  rw [chargeHash, Sequencing.bind_eq_ok_iff]
  constructor
  · rintro ⟨_, _, counts, rest⟩
    rcases Sequencing.bind_eq_ok_iff.mp rest with ⟨_, charged, charges, rest⟩
    rw [Sequencing.get_bind, Sequencing.unless_eq_ok_iff, Sequencing.pure_eq_ok_iff] at rest
    rcases rest with ⟨few, _, rfl⟩
    rw [← Sequencing.modify_eq_ok_iff.mp counts] at charges
    refine ⟨charge_eq_ok_iff.mp charges, ?_⟩
    intro metered
    simpa [metered] using few
  · rintro ⟨same, few⟩
    refine ⟨(), _, Sequencing.modify_eq_ok_iff.mpr rfl, ?_⟩
    refine Sequencing.bind_eq_ok_iff.mpr ⟨(), after, charge_eq_ok_iff.mpr same, ?_⟩
    rw [Sequencing.get_bind, Sequencing.unless_eq_ok_iff]
    refine ⟨?_, rfl⟩
    simpa using few

theorem countSigChecks_eq_ok_iff {count : Nat} :
    vm.countSigChecks count machine = .ok () after ↔
      { machine with
        metrics.sigChecks := machine.metrics.sigChecks + count
        metrics.opCost :=
          machine.metrics.opCost + if vm.isMetered then count * 26000 else 0 } = after := by
  rw [countSigChecks, Sequencing.bind_eq_ok_iff]
  constructor
  · rintro ⟨_, _, counts, charges⟩
    rw [← Sequencing.modify_eq_ok_iff.mp counts] at charges
    exact charge_eq_ok_iff.mp charges
  · intro same
    exact ⟨(), _, Sequencing.modify_eq_ok_iff.mpr rfl, charge_eq_ok_iff.mpr same⟩

/-- What was found is returned, whether or not checks are counted before. -/
theorem eq_of_counted {condition : Prop} [Decidable condition] {count : Nat} {valid value : Bool}
    (returned : (if condition then vm.countSigChecks count >>= fun _ => pure valid else pure valid)
      machine = .ok value after) :
    valid = value := by
  by_cases counts : condition
  · rw [if_pos counts] at returned
    rcases Sequencing.bind_eq_ok_iff.mp returned with ⟨_, _, _, returned⟩
    exact (Sequencing.pure_eq_ok_iff.mp returned).1
  · rw [if_neg counts] at returned
    exact (Sequencing.pure_eq_ok_iff.mp returned).1

/-! ## Instructions -/

/-- The number of instructions that do more than push, carried out or not. -/
def countedOperations (instructions : List Instruction) : Nat :=
  instructions.countP fun instruction => decide (Opcode.sixteen < instruction.opcode)

theorem countedOperations_cons (first : Instruction) (rest : List Instruction) :
    countedOperations (first :: rest) = countedOperations [first] + countedOperations rest := by
  rw [countedOperations, ← List.singleton_append, List.countP_append]
  rfl

theorem countedOperations_singleton (instruction : Instruction) :
    countedOperations [instruction] = if Opcode.isPush instruction.opcode then 0 else 1 := by
  rw [countedOperations, List.countP_singleton, Opcode.isPush]
  by_cases pushes : instruction.opcode ≤ Opcode.sixteen
  · rw [if_neg (by simpa using pushes), if_pos (by simpa using pushes)]
  · rw [if_pos (by simpa using pushes), if_neg (by simpa using pushes)]

/-- Permitting an instruction charges for it and counts its operation. -/
theorem eq_of_permit (permits : vm.permit instruction machine = .ok () after) :
    { machine with
      metrics.opCost := machine.metrics.opCost + if vm.isMetered then 100 else 0
      opCount := machine.opCount + if Opcode.isPush instruction.opcode then 0 else 1 } = after := by
  simp only [permit, Sequencing.throw_bind] at permits
  rcases Sequencing.unless_eq_ok_iff.mp permits with ⟨_, permits⟩
  rcases Sequencing.bind_eq_ok_iff.mp permits with ⟨_, charged, charges, permits⟩
  rw [← charge_eq_ok_iff.mp charges] at permits
  cases pushes : Opcode.isPush instruction.opcode with
  | true =>
      rw [pushes] at permits
      exact (Sequencing.pure_eq_ok_iff.mp (Sequencing.unless_eq_ok_iff.mp permits).2).2
  | false =>
      rw [pushes] at permits
      rcases Sequencing.bind_eq_ok_iff.mp permits with ⟨_, counted, counts, permits⟩
      rcases Sequencing.bind_eq_ok_iff.mp counts with ⟨_, _, increments, counts⟩
      rw [Sequencing.get_bind, Sequencing.unless_eq_ok_iff, Sequencing.pure_eq_ok_iff,
        ← Sequencing.modify_eq_ok_iff.mp increments] at counts
      rw [← counts.2.2] at permits
      exact (Sequencing.pure_eq_ok_iff.mp (Sequencing.unless_eq_ok_iff.mp permits).2).2

/-- Data of a permitted instruction is no longer than elements may be. -/
theorem length_le_of_permit (permits : vm.permit instruction machine = .ok () after) :
    (instruction.data.getD []).length ≤ vm.maxElementSize := by
  simp only [permit, Sequencing.throw_bind] at permits
  exact Nat.le_of_not_lt (Sequencing.unless_eq_ok_iff.mp permits).1

/-- The opcode of a permitted instruction is not disabled. -/
theorem enabled_of_permit (permits : vm.permit instruction machine = .ok () after) :
    vm.isDisabled instruction.opcode = false := by
  simp only [permit, Sequencing.throw_bind] at permits
  rcases Sequencing.unless_eq_ok_iff.mp permits with ⟨_, permits⟩
  rcases Sequencing.bind_eq_ok_iff.mp permits with ⟨_, charged, _, permits⟩
  cases pushes : Opcode.isPush instruction.opcode with
  | true =>
      rw [pushes] at permits
      exact eq_false_of_ne_true (Sequencing.unless_eq_ok_iff.mp permits).1
  | false =>
      rw [pushes] at permits
      rcases Sequencing.bind_eq_ok_iff.mp permits with ⟨_, counted, _, permits⟩
      exact eq_false_of_ne_true (Sequencing.unless_eq_ok_iff.mp permits).1

/-- What is demanded of a machine after each instruction. -/
structure WithinLimits (vm : Interpreter) (machine : Machine) : Prop where
  stackSize : machine.stack.length + machine.altStack.length ≤ vm.limits.maxStackSize.toNat
  opCost : vm.isMetered = true -> machine.metrics.opCost ≤ vm.opCostBudget

theorem checkLimits_eq_ok_iff :
    vm.checkLimits machine = .ok () after ↔ vm.WithinLimits machine ∧ machine = after := by
  simp only [checkLimits, Sequencing.throw_bind]
  rw [Sequencing.get_bind, Sequencing.unless_eq_ok_iff, Sequencing.unless_eq_ok_iff,
    Sequencing.pure_eq_ok_iff]
  constructor
  · rintro ⟨few, cheap, _, same⟩
    refine ⟨⟨Nat.le_of_not_lt few, ?_⟩, same⟩
    intro metered
    simpa [metered] using cheap
  · rintro ⟨⟨few, cheap⟩, same⟩
    refine ⟨Nat.not_lt_of_le few, ?_, rfl, same⟩
    simpa using cheap

theorem step_eq_ok_iff :
    vm.step instruction next machine = .ok () after ↔
      ∃ permitted, vm.permit instruction machine = .ok () permitted ∧
      vm.carryOut instruction next permitted = .ok () after ∧ vm.WithinLimits after := by
  rw [step, Sequencing.bind_eq_ok_iff]
  constructor
  · rintro ⟨_, permitted, permits, rest⟩
    rcases Sequencing.bind_eq_ok_iff.mp rest with ⟨_, carried, carries, checked⟩
    rcases checkLimits_eq_ok_iff.mp checked with ⟨within, rfl⟩
    exact ⟨permitted, permits, carries, within⟩
  · rintro ⟨permitted, permits, carries, within⟩
    refine ⟨(), permitted, permits, ?_⟩
    exact Sequencing.bind_eq_ok_iff.mpr
      ⟨(), after, carries, checkLimits_eq_ok_iff.mpr ⟨within, rfl⟩⟩

/-- A run of instructions comes by every point between two of them. -/
theorem exists_of_runFrom_append {start : Nat} {front rest : List Instruction}
    (ran : vm.runFrom start (front ++ rest) machine = .ok () after) :
    ∃ offset middle, vm.runFrom start front machine = .ok () middle ∧
      vm.runFrom offset rest middle = .ok () after := by
  induction front generalizing start machine with
  | nil => exact ⟨start, machine, rfl, ran⟩
  | cons first front inductionHypothesis =>
      rcases Sequencing.bind_eq_ok_iff.mp ran with ⟨_, stepped, steps, remaining⟩
      rcases inductionHypothesis remaining with ⟨offset, middle, ranFront, ranRest⟩
      exact ⟨offset, middle, Sequencing.bind_eq_ok_iff.mpr ⟨(), stepped, steps, ranFront⟩, ranRest⟩

/-- A run goes through all instructions of a well-formed script and leaves no
branch open. -/
theorem run_eq_ok_iff {script : Script} :
    vm.run script machine = .ok () after ↔
      vm.runFrom 0 script.instructions machine = .ok () after ∧ script.isWellFormed = true ∧
      after.branches = [] := by
  simp only [run, finish, Sequencing.throw_bind, Script.isWellFormed]
  rw [Sequencing.bind_eq_ok_iff]
  constructor
  · rintro ⟨_, last, ran, finished⟩
    rw [Sequencing.unless_eq_ok_iff, Sequencing.get_bind, Sequencing.unless_eq_ok_iff,
      Sequencing.pure_eq_ok_iff] at finished
    rcases finished with ⟨whole, closed, _, rfl⟩
    exact ⟨ran, by simpa using whole, by simpa using closed⟩
  · rintro ⟨ran, whole, closed⟩
    refine ⟨(), after, ran, ?_⟩
    rw [Sequencing.unless_eq_ok_iff, Sequencing.get_bind, Sequencing.unless_eq_ok_iff,
      Sequencing.pure_eq_ok_iff]
    exact ⟨by simpa using whole, by simpa using closed, rfl, rfl⟩

end Interpreter
end SpendRules

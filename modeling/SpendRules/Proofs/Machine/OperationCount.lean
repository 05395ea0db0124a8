import SpendRules.Proofs.Machine.CheckOperands

namespace SpendRules

/-!
# The number of operations

Operations are counted in two places.  An instruction is counted before it is
known whether it is carried out, and the keys of a multiple signature are counted
once their number has been read off the stack.  Everything else leaves the number
of operations as it is and does not fail for it.

A script that fails is not counted to its end.  So what is counted belongs to the
instructions that a run has come to, and is told along the run.
-/

namespace Machine

/-- What a step from the machine has added to the number of operations.  A success
does not take this number beyond the limit, and a failure is for this number only
if it is beyond the limit. -/
def Tallies {α : Type} (machine : Machine) (limit counted : Nat) :
    EStateM.Result ScriptError Machine α -> Prop
  | .ok _ after =>
      after.opCount = machine.opCount + counted ∧ (machine.opCount ≤ limit -> after.opCount ≤ limit)
  | .error failure _ => failure = .opCount -> limit < machine.opCount + counted

namespace Tallies

variable {α β : Type} {limit counted counted' : Nat} {machine middle : Machine}

/-- Operations that were counted before add to those that are counted after. -/
theorem behind {result : EStateM.Result ScriptError Machine α}
    (count : middle.opCount = machine.opCount + counted)
    (few : machine.opCount ≤ limit -> middle.opCount ≤ limit)
    (tallies : middle.Tallies limit counted' result) :
    machine.Tallies limit (counted + counted') result := by
  cases result with
  | ok _ after =>
      refine ⟨?_, fun start => tallies.2 (few start)⟩
      rw [tallies.1, count, Nat.add_assoc]
  | error failure _ =>
      intro same
      have exceeded := tallies same
      rwa [count, Nat.add_assoc] at exceeded

theorem bind {first : Step α} {next : α -> Step β}
    (tallies : machine.Tallies limit counted (first machine))
    (nextTallies : forall value middle, first machine = .ok value middle ->
      middle.Tallies limit counted' (next value middle)) :
    machine.Tallies limit (counted + counted') ((first >>= next) machine) := by
  cases result : first machine with
  | ok value middle =>
      rw [result] at tallies
      rw [Sequencing.bind_of_ok result]
      exact behind tallies.1 tallies.2 (nextTallies value middle result)
  | error failure middle =>
      rw [result] at tallies
      rw [Sequencing.bind_of_error result]
      exact fun same => Nat.lt_of_lt_of_le (tallies same) (by omega)

end Tallies

end Machine

/-- The first step neither counts operations nor fails for their number.  The
second step does not matter. -/
def Comparison.quiet (limit : Nat) : Comparison where
  below := []
  holds first _ := forall machine, machine.Tallies limit 0 (first machine)
  pure _ _ := ⟨rfl, id⟩
  fail _ _ _ stops _ := fun same => (ScriptError.ne_opCount_of_stopsSteps stops same).elim
  look quiet machine := quiet machine machine
  sequence quiet nextQuiet machine :=
    (quiet machine).bind fun value middle success =>
      nextQuiet value ⟨machine, middle, success⟩ middle

namespace Interpreter

variable {vm : Interpreter} {limit : Nat} {instruction : Instruction} {next : Nat}
  {machine after : Machine}

/-! ## What counts no operations -/

private theorem quiet_modify {change : Machine -> Machine}
    (unseen : forall machine, (change machine).opCount = machine.opCount) :
    (Comparison.quiet limit).holds (modify change) (modify change) :=
  fun machine => ⟨unseen machine, fun few => (unseen machine).symm ▸ few⟩

private theorem quiet_control : (Comparison.quiet limit).AdmitsControlChanges := by
  refine ⟨⟨⟨fun _ => ?_, fun _ => ?_, fun _ => ?_⟩, fun _ => ?_⟩, fun _ => ?_⟩
  all_goals exact quiet_modify fun _ => rfl

private theorem quiet_performs : PerformsAlike (Comparison.quiet limit) vm vm :=
  .of_metrics quiet_control.toAdmitsStackChanges fun _ => quiet_modify fun _ => rfl

private theorem quiet_checks : ChecksAlike (Comparison.quiet limit) vm vm :=
  .of_metrics quiet_performs.toWorksAlike (fun _ => quiet_modify fun _ => rfl) fun _ =>
    quiet_modify fun _ => rfl

/-! ## What counts operations -/

section

variable (unmetered : vm.isMetered = false)

include unmetered

private theorem countOperation_tallies :
    machine.Tallies vm.limits.maxOps.toNat 1 (vm.countOperation machine) := by
  unfold countOperation
  rw [Sequencing.modify_bind, Sequencing.get_bind, unmetered]
  by_cases many : machine.opCount + 1 > vm.limits.maxOps.toNat
  · rw [if_pos (by simpa using many)]
    exact fun _ => many
  · rw [if_neg (by simpa using many)]
    exact ⟨rfl, fun _ => Nat.le_of_not_lt many⟩

/-- An instruction is counted if it does more than push. -/
private theorem permit_tallies :
    machine.Tallies vm.limits.maxOps.toNat (countedOperations [instruction])
      (vm.permit instruction machine) := by
  let c := Comparison.quiet vm.limits.maxOps.toNat
  have performs : PerformsAlike c vm vm := quiet_performs
  have enabled : c.holds
      (if vm.isDisabled instruction.opcode then throw .disabledOpcode else pure () : Step Unit)
      (if vm.isDisabled instruction.opcode then throw .disabledOpcode else pure ()) :=
        c.ite (c.throw _ rfl) c.unit
  simp only [permit, Sequencing.throw_bind]
  by_cases long : (instruction.data.getD []).length > vm.maxElementSize
  · rw [if_pos long]
    intro impossible
    cases impossible
  rw [if_neg long, countedOperations_singleton, ← Nat.zero_add (ite _ _ _)]
  refine (performs.charge 100 machine).bind fun _ middle _ => ?_
  cases Opcode.isPush instruction.opcode with
  | true => exact enabled middle
  | false => exact (countOperation_tallies unmetered).bind fun _ last _ => enabled last

/-- An operation counts the keys that it finds announced. -/
private theorem perform_tallies (operation : Operation) (executing : Bool) :
    machine.Tallies vm.limits.maxOps.toNat (vm.announcedKeys operation machine.stack)
      (vm.perform operation executing next machine) := by
  let c := Comparison.quiet vm.limits.maxOps.toNat
  have performs : PerformsAlike c vm vm := quiet_performs
  have checks : ChecksAlike c vm vm := quiet_checks
  cases checksSignature : operation.checksSignature with
  | false =>
      have none : vm.announcedKeys operation machine.stack = 0 := by
        cases operation with
        | checkMultiSig _ => cases checksSignature
        | _ => rfl
      rw [none]
      refine performs.perform operation executing next (Or.inl rfl) ?_ ?_ machine
      · exact fun isControl => performs.control quiet_control isControl executing next
      · intro impossible
        cases checksSignature.symm.trans impossible
  | true =>
      have carries : vm.Carries operation machine _ :=
        carries_perform checksSignature executing next machine
      generalize vm.perform operation executing next machine = result at carries ⊢
      cases carries with
      | refused stops opCount => exact fun same =>
          (ScriptError.ne_opCount_of_stopsSteps stops same).elim
      | exceeded many opCount => exact fun _ => many
      | judged found required stops opCount counts =>
          rcases counts unmetered with ⟨count, few⟩
          exact .behind count few ((checks.verdict _ _ _).bind fun valid middle _ =>
            checks.toWorksAlike.conclude _ valid required _ stops middle)

/-- Keys are counted only while all open branches are taken. -/
private theorem carryOut_tallies : machine.Tallies vm.limits.maxOps.toNat
    (if machine.isExecuting then
      vm.announcedKeys (Opcode.operation instruction.opcode) machine.stack
    else 0)
    (vm.carryOut instruction next machine) := by
  have pushes :=
    (quiet_performs : PerformsAlike (.quiet vm.limits.maxOps.toNat) vm vm).pushInstructionData
  unfold carryOut
  rw [Sequencing.get_bind]
  generalize Opcode.operation instruction.opcode = operation
  have performed (executing : Bool) : machine.Tallies vm.limits.maxOps.toNat
      (vm.announcedKeys operation machine.stack) (vm.perform operation executing next machine) :=
    perform_tallies unmetered operation executing
  cases machine.isExecuting with
  | true =>
      cases operation with
      | pushData => exact pushes instruction machine
      | _ => exact performed true
  | false =>
      cases operation with
      | openBranch _ | elseBranch | closeBranch | reservedBranch => exact performed false
      | _ => exact ⟨rfl, id⟩

end

/-! ## Runs -/

/-- The number of keys that an instruction counts as operations: those that it
finds announced, if it is permitted and all open branches are taken. -/
def executedKeys (vm : Interpreter) (instruction : Instruction) (machine : Machine) : Nat :=
  match vm.permit instruction machine with
  | .ok _ permitted =>
    if permitted.isExecuting then
      vm.announcedKeys (Opcode.operation instruction.opcode) permitted.stack
    else 0
  | .error _ _ => 0

/-- The number of keys that instructions count as operations, as far as they are
run one after another. -/
def executedKeysFrom (vm : Interpreter) : Nat -> List Instruction -> Machine -> Nat
  | _, [], _ => 0
  | start, instruction :: rest, machine =>
    let next := start + instruction.size
    vm.executedKeys instruction machine +
      match vm.step instruction next machine with
      | .ok _ after => vm.executedKeysFrom next rest after
      | .error _ _ => 0

/-- The number of operations of instructions that a machine runs: all that do more
than push, and the keys of multiple signatures that are carried out. -/
def operationsFrom (vm : Interpreter) (start : Nat) (instructions : List Instruction)
    (machine : Machine) : Nat :=
  countedOperations instructions + vm.executedKeysFrom start instructions machine

theorem operationsFrom_of_step {start : Nat} {rest : List Instruction}
    (stepped : vm.step instruction (start + instruction.size) machine = .ok () after) :
    vm.operationsFrom start (instruction :: rest) machine =
      countedOperations [instruction] + vm.executedKeys instruction machine +
        vm.operationsFrom (start + instruction.size) rest after := by
  simp only [operationsFrom, executedKeysFrom, stepped, countedOperations_cons instruction rest]
  omega

section

variable (unmetered : vm.isMetered = false)

include unmetered

/-- One instruction adds its own operations. -/
private theorem step_tallies :
    machine.Tallies vm.limits.maxOps.toNat
      (countedOperations [instruction] + vm.executedKeys instruction machine)
        (vm.step instruction next machine) := by
  have performs : PerformsAlike (.quiet vm.limits.maxOps.toNat) vm vm := quiet_performs
  refine (permit_tallies unmetered).bind fun _ permitted permits => ?_
  have carried : permitted.Tallies vm.limits.maxOps.toNat (vm.executedKeys instruction machine)
      (vm.carryOut instruction next permitted) := by
    rw [executedKeys, permits]
    exact carryOut_tallies unmetered
  exact carried.bind fun _ after _ => performs.checkLimits rfl after

/-- A run adds the operations of its instructions. -/
theorem runFrom_counts {start : Nat} {instructions : List Instruction}
    (ran : vm.runFrom start instructions machine = .ok () after) :
    after.opCount = machine.opCount + vm.operationsFrom start instructions machine ∧
      (machine.opCount ≤ vm.limits.maxOps.toNat -> after.opCount ≤ vm.limits.maxOps.toNat) := by
  induction instructions generalizing start machine with
  | nil =>
      rw [← (Sequencing.pure_eq_ok_iff.mp ran).2]
      exact ⟨rfl, id⟩
  | cons first rest inductionHypothesis =>
      rcases Sequencing.bind_eq_ok_iff.mp ran with ⟨_, middle, stepped, remaining⟩
      have tallies : machine.Tallies _ _ (vm.step first (start + first.size) machine) :=
        step_tallies unmetered
      rw [stepped] at tallies
      rcases inductionHypothesis remaining with ⟨count, few⟩
      refine ⟨?_, fun start => few (tallies.2 start)⟩
      rw [count, tallies.1, operationsFrom_of_step stepped, Nat.add_assoc]

/-- A run fails for the number of operations only where the operations up to there
are too many. -/
theorem exists_exceeding_of_runFrom {start : Nat} {instructions : List Instruction}
    (failed : vm.runFrom start instructions machine = .error .opCount after) :
    ∃ front instruction rest before failing, instructions = front ++ instruction :: rest ∧
      vm.runFrom start front machine = .ok () before ∧
      vm.runFrom start (front ++ [instruction]) machine = .error .opCount failing ∧
      vm.limits.maxOps.toNat <
        machine.opCount + vm.operationsFrom start (front ++ [instruction]) machine := by
  induction instructions generalizing start machine with
  | nil => cases failed
  | cons first rest inductionHypothesis =>
      have tallies : machine.Tallies _ _ (vm.step first (start + first.size) machine) :=
        step_tallies unmetered
      cases stepped : vm.step first (start + first.size) machine with
      | error failure failing =>
          have same : vm.runFrom start (first :: rest) machine = .error failure failing :=
            Sequencing.bind_of_error stepped _
          cases failed.symm.trans same
          refine ⟨[], first, rest, machine, _, rfl, rfl, Sequencing.bind_of_error stepped _, ?_⟩
          rw [stepped] at tallies
          have exceeded := tallies rfl
          simp only [List.nil_append, operationsFrom, executedKeysFrom, stepped, Nat.add_zero]
          exact exceeded
      | ok _ middle =>
          -- The instruction is found in the rest of the run, which starts with the
          -- operations counted so far.
          have remaining : vm.runFrom (start + first.size) rest middle = .error .opCount after :=
            (Sequencing.bind_of_ok stepped _).symm.trans failed
          rcases inductionHypothesis remaining with
            ⟨front, instruction, behind, before, failing, rfl, ran, fails, exceeds⟩
          refine ⟨first :: front, instruction, behind, before, failing, rfl, ?_, ?_, ?_⟩
          · exact (Sequencing.bind_of_ok stepped _).trans ran
          · exact (Sequencing.bind_of_ok stepped _).trans fails
          · rw [stepped] at tallies
            rw [List.cons_append, operationsFrom_of_step stepped, ← Nat.add_assoc, ← tallies.1]
            exact exceeds

/-- An evaluation that fails for the number of operations fails at an instruction,
since what is demanded at the end of a script is not about this number. -/
private theorem runFrom_of_evaluate_exceeded {script : Script} {session ended : Session}
    (evaluated : vm.evaluate script session = .error .opCount ended) :
    ∃ failed, vm.runFrom 0 script.instructions { toSession := session, script := script } =
      .error .opCount failed := by
  rcases run_of_evaluate_eq_error evaluated with impossible | ⟨failed, run⟩
  · cases impossible
  cases ran : vm.runFrom 0 script.instructions { toSession := session, script := script } with
  | ok _ machine =>
      have finished : finish script.layout.tail machine = .error .opCount failed :=
        (Sequencing.bind_of_ok ran _).symm.trans run
      have tallies := finish_holds (Comparison.quiet vm.limits.maxOps.toNat)
        script.layout.tail machine
      rw [finished] at tallies
      have few := (runFrom_counts unmetered ran).2 (Nat.zero_le _)
      exact (Nat.not_lt_of_le few (tallies rfl)).elim
  | error failure machine =>
      cases (Sequencing.bind_of_error ran _).symm.trans run
      exact ⟨_, rfl⟩

end

/-- While work is not metered, a script that is evaluated has no more operations
than the limit allows.  The evaluation fails for their number only at an
instruction with which there are more. -/
theorem evaluate_limitsOperations (vm : Interpreter) (script : Script) (session : Session)
    (unmetered : vm.enables .may2025 = false) :
    (forall after, vm.evaluate script session = .ok () after ->
      vm.operationsFrom 0 script.instructions { toSession := session, script := script } ≤
        vm.limits.maxOps.toNat) ∧
    (forall after, vm.evaluate script session = .error .opCount after ->
      ∃ front instruction rest before failing, script.instructions = front ++ instruction :: rest ∧
        vm.runFrom 0 front { toSession := session, script := script } = .ok () before ∧
        vm.runFrom 0 (front ++ [instruction]) { toSession := session, script := script } =
          .error .opCount failing ∧
        vm.limits.maxOps.toNat <
          vm.operationsFrom 0 (front ++ [instruction])
            { toSession := session, script := script }) := by
  constructor
  · intro after evaluated
    rcases evaluate_eq_ok_iff.mp evaluated with ⟨_, machine, ran, _⟩
    rcases runFrom_counts unmetered (run_eq_ok_iff.mp ran).1 with ⟨count, few⟩
    rw [Nat.zero_add] at count
    exact count ▸ few (Nat.zero_le _)
  · intro after evaluated
    rcases runFrom_of_evaluate_exceeded unmetered evaluated with ⟨failed, ran⟩
    rcases exists_exceeding_of_runFrom unmetered ran with
      ⟨front, instruction, rest, before, failing, exceeding⟩
    rw [Nat.zero_add] at exceeding
    exact ⟨front, instruction, rest, before, failing, exceeding⟩

/-- An interpreter that allows few operations. -/
private def sparingInterpreter (maxOps : UInt64) : Interpreter where
  rules := .ofFlags 0
  limits := { maxOps := maxOps }
  verifier _ := .ok false

/-- A multiple signature of two keys without signatures. -/
private def noneOfTwo : Script where
  bytes := [0x00, 0x00, 0x51, 0x51, 0x52, 0xae]

/-- The multiple signature and its keys are three operations. -/
theorem evaluate_limitsOperations_noneOfTwo :
    (sparingInterpreter 3).operationsFrom 0 noneOfTwo.instructions { script := noneOfTwo } ≤ 3 ∧
      ∃ front instruction rest before failing,
          noneOfTwo.instructions = front ++ instruction :: rest ∧
        (sparingInterpreter 2).runFrom 0 front { script := noneOfTwo } = .ok () before ∧
        (sparingInterpreter 2).runFrom 0 (front ++ [instruction]) { script := noneOfTwo } =
          .error .opCount failing ∧
        2 < (sparingInterpreter 2).operationsFrom 0 (front ++ [instruction])
          { script := noneOfTwo } := by
  have layout : noneOfTwo.layout =
      { instructions := [⟨0x00, [], some []⟩, ⟨0x00, [], some []⟩, ⟨0x51, [], none⟩,
        ⟨0x51, [], none⟩,
          ⟨0x52, [], none⟩, ⟨0xae, [], none⟩], tail := [] } := by decide +kernel
  have evaluated : (sparingInterpreter 3).evaluate noneOfTwo {} = .ok () { stack := [[1]] } := by
    unfold evaluate run
    rw [layout]
    rfl
  have failed : ∃ after, (sparingInterpreter 2).evaluate noneOfTwo {} = .error .opCount after := by
    unfold evaluate run
    rw [layout]
    exact ⟨_, rfl⟩
  rcases failed with ⟨after, failed⟩
  exact ⟨(evaluate_limitsOperations (sparingInterpreter 3) noneOfTwo {} (by decide)).1 _ evaluated,
    (evaluate_limitsOperations (sparingInterpreter 2) noneOfTwo {} (by decide)).2 after failed⟩

end Interpreter
end SpendRules

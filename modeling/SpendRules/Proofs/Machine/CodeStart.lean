import SpendRules.Proofs.Machine.Progress
import SpendRules.Proofs.Machine.SignatureChecks
import SpendRules.Proofs.Machine.Steps
import SpendRules.Proofs.Script.Tiling

namespace SpendRules

open Sequencing

/-!
# Where the code starts

A signature covers the script from the last executed separator on.  A separator
moves the start of this code to the offset at which it ends, and nothing else moves
it.  So the code starts where an instruction of the script does, and what it
consists of are instructions of the script.

This is stated for all points of a run, those at which it fails among them.
-/

/-- There is one opcode for separators. -/
theorem Opcode.eq_codeSeparator_of_operation {opcode : UInt8}
    (separates : operation opcode = .codeSeparator) :
    opcode = codeSeparator := by
  have single : table.all
      (fun row => row.operation != .codeSeparator || row.code == codeSeparator) = true := by decide
  rcases exists_entry_of_operation separates nofun nofun with ⟨row, member, rfl, same⟩
  have only := List.all_eq_true.mp single row member
  rw [same] at only
  exact eq_of_beq only

/-- The script of a machine, and the offset at which its code starts. -/
def Machine.coverage (machine : Machine) : Script × Nat :=
  (machine.script, machine.codeStart)

/-- The first step leaves script and code as they are, whether it succeeds or not.
The second step does not matter. -/
def Comparison.unmoved : Comparison :=
  .along (Progress.still.on Machine.coverage)

namespace Interpreter

variable {vm : Interpreter} {script : Script} {session : Session} {instruction : Instruction}
  {machine : Machine}

/-! ## What leaves the code as it is -/

private theorem unmoved_modify {change : Machine -> Machine}
    (unseen : forall machine, (change machine).coverage = machine.coverage) :
    Comparison.unmoved.holds (modify change) (modify change) :=
  fun machine => .modify (unseen machine)

private theorem unmoved_branches : Comparison.unmoved.AdmitsBranchChanges := by
  refine ⟨⟨fun _ => ?_, fun _ => ?_, fun _ => ?_⟩, fun _ => ?_⟩
  all_goals exact unmoved_modify fun _ => rfl

private theorem unmoved_counting : Comparison.unmoved.AdmitsCounting :=
  ⟨fun _ => unmoved_modify fun _ => rfl, fun _ => .throw _⟩

private theorem unmoved_performs : PerformsAlike Comparison.unmoved vm vm :=
  .of_metrics unmoved_branches.toAdmitsStackChanges fun _ => unmoved_modify fun _ => rfl

private theorem unmoved_checks (instruction : Instruction) :
    ComparesChecks Comparison.unmoved vm vm instruction := by
  have checks : ChecksAlike Comparison.unmoved vm vm := by
    refine .of_metrics unmoved_performs.toWorksAlike (fun _ => ?_) fun _ => ?_
    all_goals exact unmoved_modify fun _ => rfl
  exact checks.comparesChecks unmoved_counting instruction

private theorem unmoved_permit (instruction : Instruction) :
    Comparison.unmoved.holds (vm.permit instruction) (vm.permit instruction) :=
  unmoved_performs.permit unmoved_counting instruction

/-- Instructions that are no separators do not move the code. -/
private theorem unmoved_carryOut (next : Nat)
    (other : Opcode.operation instruction.opcode ≠ .codeSeparator) :
    Comparison.unmoved.holds (vm.carryOut instruction next) (vm.carryOut instruction next) := by
  let c := Comparison.unmoved
  have performs : PerformsAlike c vm vm := unmoved_performs
  have checks := @unmoved_checks vm instruction
  unfold carryOut
  unfold ComparesChecks at checks
  generalize Opcode.operation instruction.opcode = operation at checks other ⊢
  refine c.look fun machine => c.ite (performs.pushInstructionData instruction) (c.ite ?_ c.unit)
  refine performs.perform operation _ next (Or.inl rfl) ?_ fun checksSignature =>
    checks checksSignature _ next
  intro isControl
  cases operation with
  | openBranch _ | elseBranch | closeBranch => exact performs.branching unmoved_branches rfl _ next
  | codeSeparator => exact (other rfl).elim
  | _ => cases isControl

private theorem unmoved_checkLimits : Comparison.unmoved.holds vm.checkLimits vm.checkLimits :=
  unmoved_performs.checkLimits rfl

/-! ## What an instruction does to the code -/

/-- The instruction is permitted, and all open branches are taken. -/
def Executes (vm : Interpreter) (instruction : Instruction) (machine : Machine) : Prop :=
  ∃ permitted, vm.permit instruction machine = .ok () permitted ∧ permitted.isExecuting = true

private theorem carryOut_of_separator
    (separates : Opcode.operation instruction.opcode = .codeSeparator) (next : Nat) :
    vm.carryOut instruction next machine =
      .ok () (if machine.isExecuting then { machine with codeStart := next } else machine) := by
  unfold carryOut
  rw [get_bind, separates]
  cases machine.isExecuting with
  | true => rfl
  | false => rfl

/-- An executed separator moves the code to the next instruction.  Otherwise, the
code stays where it is. -/
theorem coverage_of_step (vm : Interpreter) (instruction : Instruction) (next : Nat)
    (machine : Machine) :
    (finalState (vm.step instruction next) machine).coverage = machine.coverage ∨
      (finalState (vm.step instruction next) machine).coverage = (machine.script, next) ∧
        instruction.opcode = Opcode.codeSeparator ∧ vm.Executes instruction machine := by
  let c := Comparison.unmoved
  -- A separator can be refused, and it can stand in a branch that is not taken.
  by_cases separates : Opcode.operation instruction.opcode = .codeSeparator
  · have permitting : (finalState (vm.permit instruction) machine).coverage = machine.coverage :=
      unmoved_permit instruction machine
    cases permits : vm.permit instruction machine with
    | error failure failed =>
        left
        rw [finalState_of_error permits] at permitting
        rwa [step, finalState_bind_of_error permits]
    | ok _ permitted =>
        rw [finalState_of_ok permits] at permitting
        have carries := @carryOut_of_separator vm instruction permitted separates next
        rw [step, finalState_bind_of_ok permits, finalState_bind_of_ok carries]
        cases executing : permitted.isExecuting with
        | true =>
            have checking := @unmoved_checkLimits vm { permitted with codeStart := next }
            right
            refine ⟨checking.trans ?_, Opcode.eq_codeSeparator_of_operation separates, permitted,
              permits, executing⟩
            exact congrArg (fun covered => (covered.1, next)) permitting
        | false =>
            have checking := @unmoved_checkLimits vm permitted
            left
            exact checking.trans permitting
  · left
    exact c.bind (unmoved_permit instruction)
      (fun _ => c.bind (unmoved_carryOut next separates) fun _ =>
      unmoved_checkLimits) machine

/-! ## Points of a run -/

/-- Instructions that follow others are run behind them. -/
theorem runFrom_append (vm : Interpreter) (start : Nat) (front rest : List Instruction) :
    vm.runFrom start (front ++ rest) =
      vm.runFrom start front >>= fun _ =>
        vm.runFrom (start + (front.flatMap Instruction.bytes).length) rest := by
  induction front generalizing start with
  | nil => rfl
  | cons first front inductionHypothesis =>
      rw [List.cons_append, runFrom, runFrom, bind_assoc, List.flatMap_cons, List.length_append,
        Instruction.length_bytes, ← Nat.add_assoc]
      exact congrArg _ (funext fun _ => inductionHypothesis (start + first.size))

/-- The next instruction of a script is run behind the first ones. -/
theorem runFrom_take_succ (vm : Interpreter) {begun : Nat}
    (found : script.instructions[begun]? = some instruction) :
    vm.runFrom 0 (script.instructions.take (begun + 1)) =
      vm.runFrom 0 (script.instructions.take begun) >>= fun _ =>
        vm.step instruction (script.offset (begun + 1)) := by
  rw [List.take_add_one, found, Option.toList_some, runFrom_append, Nat.zero_add,
    Script.offset_succ found]
  exact congrArg _ (funext fun _ => bind_pure_unit)

/-- The run of a script has come to a point behind some of its first instructions,
within the next one, or to its end.  A run that has failed stays where it failed. -/
inductive ComesTo (vm : Interpreter) (script : Script) (session : Session) :
    Nat -> Machine -> Prop where
  | behind (begun : Nat) :
      vm.ComesTo script session begun
        (finalState (vm.runFrom 0 (script.instructions.take begun))
          { toSession := session, script := script })
  | permitting {begun : Nat} {instruction : Instruction} {machine : Machine}
      (found : script.instructions[begun]? = some instruction)
      (ran : vm.runFrom 0 (script.instructions.take begun)
        { toSession := session, script := script } = .ok () machine) :
      vm.ComesTo script session begun (finalState (vm.permit instruction) machine)
  | ended :
      vm.ComesTo script session script.instructions.length
        (finalState (vm.run script) { toSession := session, script := script })

/-- The offset is the end of a separator among the first items of the script, and
the run executes this separator. -/
def EndsSeparator (vm : Interpreter) (script : Script) (session : Session) (begun offset : Nat) :
    Prop :=
  ∃ index item separator before, index < begun ∧ script.items[index]? = some item ∧
    item.content = .ok separator ∧
    separator.opcode = Opcode.codeSeparator ∧ script.stop item = offset ∧
    vm.runFrom 0 (script.instructions.take index) { toSession := session, script := script } =
      .ok () before ∧
    vm.Executes separator before

/-- The machine runs the script, and its code starts where the script does or
behind an executed separator. -/
structure CoversFromSeparator (vm : Interpreter) (script : Script) (session : Session) (begun : Nat)
    (machine : Machine) : Prop where
  script_eq : machine.script = script
  codeStart : machine.codeStart = 0 ∨ vm.EndsSeparator script session begun machine.codeStart

namespace CoversFromSeparator

variable {begun : Nat} {after : Machine}

theorem of_coverage_eq (covers : vm.CoversFromSeparator script session begun machine)
    (same : after.coverage = machine.coverage) :
    vm.CoversFromSeparator script session begun after := by
  injection same with script_eq codeStart_eq
  exact ⟨script_eq.trans covers.script_eq, codeStart_eq ▸ covers.codeStart⟩

theorem succ (covers : vm.CoversFromSeparator script session begun machine) :
    vm.CoversFromSeparator script session (begun + 1) machine := by
  refine ⟨covers.script_eq, covers.codeStart.imp_right ?_⟩
  rintro ⟨index, item, separator, before, earlier, placed⟩
  exact ⟨index, item, separator, before, Nat.lt_succ_of_lt earlier, placed⟩

/-- One more instruction leaves the code as it is, or it is the separator behind
which the code starts. -/
theorem step (covers : vm.CoversFromSeparator script session begun machine)
    (found : script.instructions[begun]? = some instruction)
    (ran : vm.runFrom 0 (script.instructions.take begun)
      { toSession := session, script := script } = .ok () machine) :
    vm.CoversFromSeparator script session (begun + 1)
      (finalState (vm.step instruction (script.offset (begun + 1))) machine) := by
  rcases coverage_of_step vm instruction (script.offset (begun + 1)) machine with
    same | ⟨moved, separates, executes⟩
  · exact covers.succ.of_coverage_eq same
  · injection moved with script_eq codeStart_eq
    have placed : script.items[begun]? =
        some { start := script.offset begun, content := .ok instruction } :=
      Script.getElem?_items.mpr ⟨rfl, Or.inl ⟨instruction, found, rfl⟩⟩
    refine ⟨script_eq.trans covers.script_eq, Or.inr ?_⟩
    refine ⟨begun, _, instruction, machine, Nat.lt_succ_self begun, placed, rfl, separates, ?_,
      ran, executes⟩
    rw [codeStart_eq]
    exact (Script.offset_succ found).symm

end CoversFromSeparator

theorem coversFromSeparator_runFrom (vm : Interpreter) (script : Script) (session : Session)
    (begun : Nat) :
    vm.CoversFromSeparator script session begun
      (finalState (vm.runFrom 0 (script.instructions.take begun))
        { toSession := session, script := script }) := by
  induction begun with
  | zero => exact ⟨rfl, Or.inl rfl⟩
  | succ begun inductionHypothesis =>
      cases found : script.instructions[begun]? with
      | none =>
          rw [List.take_add_one, found, Option.toList_none, List.append_nil]
          exact inductionHypothesis.succ
      | some instruction =>
          rw [runFrom_take_succ vm found]
          cases ran : vm.runFrom 0 (script.instructions.take begun)
            { toSession := session, script := script } with
          | ok _ before =>
              rw [finalState_of_ok ran] at inductionHypothesis
              rw [finalState_bind_of_ok ran]
              exact inductionHypothesis.step found ran
          -- A run that has failed does not get to the instruction.
          | error failure before =>
              rw [finalState_of_error ran] at inductionHypothesis
              rw [finalState_bind_of_error ran]
              exact inductionHypothesis.succ

/-- The end of a script does not move the code. -/
private theorem coverage_of_run (vm : Interpreter) (script : Script) (machine : Machine) :
    (finalState (vm.run script) machine).coverage =
      (finalState (vm.runFrom 0 script.instructions) machine).coverage := by
  change (finalState (vm.runFrom 0 script.instructions >>= fun _ => finish script.layout.tail)
    machine).coverage = _
  cases ran : vm.runFrom 0 script.instructions machine with
  | ok _ after =>
      rw [finalState_bind_of_ok ran, finalState_of_ok ran]
      exact finish_holds Comparison.unmoved script.layout.tail after
  | error failure after => rw [finalState_bind_of_error ran, finalState_of_error ran]

theorem ComesTo.coversFromSeparator {begun : Nat}
    (comes : vm.ComesTo script session begun machine) :
    vm.CoversFromSeparator script session begun machine := by
  cases comes with
  | behind => exact coversFromSeparator_runFrom vm script session begun
  | permitting found ran =>
      have covers := coversFromSeparator_runFrom vm script session begun
      rw [finalState_of_ok ran] at covers
      exact covers.of_coverage_eq (unmoved_permit _ _)
  | ended =>
      have covers := coversFromSeparator_runFrom vm script session script.instructions.length
      rw [List.take_length] at covers
      exact covers.of_coverage_eq (coverage_of_run vm script _)

/-- The code of a machine starts at an offset of the script. -/
theorem CoversFromSeparator.exists_offset {begun : Nat}
    (covers : vm.CoversFromSeparator script session begun machine) :
    ∃ index, machine.codeStart = script.offset index := by
  rcases covers.codeStart with
    starts | ⟨index, item, separator, _, _, found, isInstruction, _, ends, _⟩
  · exact ⟨0, starts⟩
  · rcases Script.getElem?_items.mp found with ⟨start, ⟨instruction, placed, same⟩ | ⟨_, _, failed⟩⟩
    · refine ⟨index + 1, ?_⟩
      rw [← ends, Script.stop, same, Script.offset_succ placed, start]
    · rw [isInstruction] at failed
      cases failed

/-- The instructions of a script tile it.  Wherever a run has come to, the code
starts where the script does or behind an executed separator, so that it lies
within the script and is tiled by the same instructions. -/
theorem code_isTiled (vm : Interpreter) (script : Script) (session : Session) :
    script.Tiling ∧ forall begun machine, vm.ComesTo script session begun machine ->
      machine.script = script ∧
      (machine.codeStart = 0 ∨ vm.EndsSeparator script session begun machine.codeStart) ∧
      machine.codeStart ≤ machine.script.bytes.length ∧
      Script.Walk.Yields { bytes := machine.scriptCode.bytes }
        ((script.items.filter fun item => decide (machine.codeStart ≤ item.start)).map
          (Script.Item.backBy machine.codeStart)) := by
  refine ⟨script.tiling, fun begun machine comes => ?_⟩
  have covers := comes.coversFromSeparator
  rcases covers.exists_offset with ⟨index, codeStart⟩
  refine ⟨covers.script_eq, covers.codeStart, ?_, ?_⟩
  · rw [covers.script_eq, codeStart]
    exact script.offset_le_length index
  · have walked := machine.scriptCode.tiling.walked
    have code : machine.scriptCode = { bytes := script.bytes.drop (script.offset index) } := by
      rw [Machine.scriptCode, covers.script_eq, codeStart]
    rw [codeStart, ← script.items_drop index, ← code]
    exact walked

/-- A script with an executed separator, a separator in a branch that is not taken,
and a push that is cut off. -/
private def separatedScript : Script where
  bytes := [0x51, 0xab, 0x00, 0x63, 0xab, 0x68, 0x02, 0xaa]

/-- An interpreter without rules. -/
private def separatingInterpreter : Interpreter where
  rules := .empty
  verifier _ := .ok false

/-- Behind the branch, the code still starts behind the first separator. -/
theorem code_isTiled_separatedScript :
    let machine : Machine :=
    { stack := [[1]], script := separatedScript, opCount := 4, codeStart := 2 }
    separatingInterpreter.ComesTo separatedScript {} 6 machine ∧
      separatingInterpreter.EndsSeparator separatedScript {} 6 2 ∧
      Script.Walk.Yields { bytes := [0x00, 0x63, 0xab, 0x68, 0x02, 0xaa] }
        [⟨0, .ok ⟨0x00, [], some []⟩⟩, ⟨1, .ok ⟨0x63, [], none⟩⟩, ⟨2, .ok ⟨0xab, [], none⟩⟩,
          ⟨3, .ok ⟨0x68, [], none⟩⟩, ⟨4, .error .badOpcode⟩] := by
  intro machine
  have layout : separatedScript.layout =
      { instructions := [⟨0x51, [], none⟩, ⟨0xab, [], none⟩, ⟨0x00, [], some []⟩, ⟨0x63, [], none⟩,
        ⟨0xab, [], none⟩,
          ⟨0x68, [], none⟩]
        tail := [0x02, 0xaa] } := by
    decide +kernel
  have comes : separatingInterpreter.ComesTo separatedScript {} 6 machine := by
    have behind : separatingInterpreter.ComesTo separatedScript {} 6 _ := .behind 6
    rw [Script.instructions, layout] at behind
    exact behind
  rcases (code_isTiled separatingInterpreter separatedScript {}).2 6 machine comes with
    ⟨_, starts, _, walked⟩
  rw [Script.items, layout] at walked
  exact ⟨comes, starts.resolve_left (Nat.succ_ne_zero 1), walked⟩

end Interpreter
end SpendRules

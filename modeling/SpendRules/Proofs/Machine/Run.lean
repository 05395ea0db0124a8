import SpendRules.Proofs.Machine.Context

namespace SpendRules

/-- The operation asks the verifier. -/
def Operation.checksSignature : Operation -> Bool
  | .checkSig _ | .checkMultiSig _ | .checkDataSig _ => true
  | _ => false

namespace Interpreter

/-!
# Whole runs under two interpreters

What holds for every operation holds for every instruction, since the checks
around an operation depend on the limits only.  It then holds for a run of any
length, by induction over the instructions.  Operations that check signatures
are supplied separately, and only those that occur in the script are needed.
-/

namespace WorksAlike

variable {c : Comparison} {vm vm' : Interpreter} (alike : WorksAlike c vm vm')

include alike

private theorem countOperation (counting : c.AdmitsCounting) :
    c.holds vm.countOperation vm'.countOperation := by
  unfold Interpreter.countOperation
  rw [alike.isMetered, alike.limits]
  exact c.bind (counting.opCount 1) fun _ => c.look fun _ => c.ite counting.tooMany c.unit

/-- The comparison holds for what is demanded of an instruction, provided that
it holds for the demand that its opcode is enabled. -/
theorem permit (counting : c.AdmitsCounting) (instruction : Instruction)
    (enabled : c.holds
      (if vm.isDisabled instruction.opcode then throw .disabledOpcode else pure ())
      (if vm'.isDisabled instruction.opcode then throw .disabledOpcode else pure ())) :
    c.holds (vm.permit instruction) (vm'.permit instruction) := by
  simp only [Interpreter.permit, Sequencing.throw_bind]
  rw [alike.maxElementSize]
  refine c.ite (c.throw _ rfl) (c.bind (alike.charge 100) fun _ => c.ite ?_ enabled)
  exact c.bind (alike.countOperation counting) fun _ => enabled

theorem pushInstructionData (minimalData : vm.enables .minimalData = vm'.enables .minimalData)
    (instruction : Instruction) :
    c.holds (vm.pushInstructionData instruction) (vm'.pushInstructionData instruction) := by
  simp only [Interpreter.pushInstructionData, Sequencing.throw_bind]
  rw [minimalData]
  exact c.ite (c.throw _ rfl) (alike.push _)

/-- The height of the stack is the same only if nothing lies below. -/
theorem checkLimits (bare : c.below = []) : c.holds vm.checkLimits vm'.checkLimits := by
  simp only [Interpreter.checkLimits, Sequencing.throw_bind]
  rw [alike.isMetered, alike.limits, alike.opCostBudget]
  refine c.look fun machine => ?_
  rw [bare, Machine.atop_nil]
  exact c.ite (c.throw _ rfl) (c.ite (c.throw _ rfl) c.unit)

end WorksAlike

/-- The end of a script depends on the machine only. -/
theorem finish_holds (c : Comparison) (tail : Bytes) : c.holds (finish tail) (finish tail) := by
  simp only [finish, Sequencing.throw_bind]
  exact c.ite (c.throw _ rfl) (c.look fun _ => c.ite (c.throw _ rfl) c.unit)

/-- A comparison holds for everything that the interpreters do, but perhaps for
signature checks and for changes of the open branches and of the start of the
code. -/
structure PerformsAlike (c : Comparison) (vm vm' : Interpreter) :
    Prop extends ComputesAlike c vm vm' where
  pushInstructionData : forall instruction,
    c.holds (vm.pushInstructionData instruction) (vm'.pushInstructionData instruction)
  reservedForUpgrade : c.holds vm.reservedForUpgrade vm'.reservedForUpgrade
  checkLockTime : c.holds vm.checkLockTime vm'.checkLockTime
  checkSequence : c.holds vm.checkSequence vm'.checkSequence
  introspect : forall question, c.holds (vm.introspect question) (vm'.introspect question)
  introspectToken : forall side part,
    c.holds (vm.introspectToken side part) (vm'.introspectToken side part)

/-- A comparison holds for everything that the interpreters do, but perhaps for
signature checks. -/
structure Corresponds (c : Comparison) (vm vm' : Interpreter) :
    Prop extends PerformsAlike c vm vm' where
  allChanges : c.AdmitsChanges

/-- A comparison holds for the operation of an instruction, if this operation
checks signatures. -/
def ComparesChecks (c : Comparison) (vm vm' : Interpreter) (instruction : Instruction) : Prop :=
  (Opcode.operation instruction.opcode).checksSignature = true -> forall executing next,
    c.holds (vm.perform (Opcode.operation instruction.opcode) executing next)
      (vm'.perform (Opcode.operation instruction.opcode) executing next)

namespace PerformsAlike

/-- A single interpreter performs like itself as soon as the comparison holds for
its charges. -/
theorem self {c : Comparison} {vm : Interpreter} (changes : c.AdmitsStackChanges)
    (charge : forall cost, c.holds (vm.charge cost) (vm.charge cost))
    (chargeHash : forall length twofold,
      c.holds (vm.chargeHash length twofold) (vm.chargeHash length twofold)) :
    PerformsAlike c vm vm := by
  have works : WorksAlike c vm vm :=
    ⟨⟨rfl, rfl, rfl, rfl⟩, changes, charge, chargeHash,
      fun _ => c.ofExcept (ScriptNumber.stopsSteps_decode _ _ _)⟩
  have alike : ComputesAlike c vm vm := ⟨works, rfl⟩
  have contexts := contextsAlike_of_eq c (rfl : vm.context = vm.context)
  have reserved : c.holds vm.reservedForUpgrade vm.reservedForUpgrade :=
    c.ite (c.throw _ rfl) c.unit
  have operand := lockTimeOperand_self c vm
  exact ⟨alike, alike.pushInstructionData rfl, reserved,
    checkLockTime_holds c contexts operand reserved rfl,
    checkSequence_holds c contexts operand reserved rfl, alike.introspect contexts rfl
      fun _ _ _ _ => alike.pushNumber _,
    alike.introspectToken contexts rfl fun _ _ _ _ => alike.pushNumber _⟩

/-- A comparison that admits every change of the work done holds for its charges. -/
theorem of_metrics {c : Comparison} {vm : Interpreter} (changes : c.AdmitsStackChanges)
    (metrics : forall change, c.holds (Step.modifyMetrics change) (Step.modifyMetrics change)) :
    PerformsAlike c vm vm := by
  have charge (cost : Nat) : c.holds (vm.charge cost) (vm.charge cost) := c.ite (metrics _) c.unit
  refine .self changes charge fun length twofold => ?_
  exact c.bind (metrics _) fun _ => c.bind (charge _) fun _ => c.look fun _ =>
    c.ite (c.throw _ rfl) c.unit

variable {c : Comparison} {vm vm' : Interpreter} (performs : PerformsAlike c vm vm')

include performs

/-- The comparison holds for every operation, provided that it holds for those
that check signatures and for those on branches and on the start of the code, and
that nothing below the stack is measured. -/
theorem perform (operation : Operation) (executing : Bool) (next : Nat)
    (unmeasured : c.below = [] ∨ operation ≠ .stack .depth)
    (control : operation.isControl = true ->
      c.holds (vm.perform operation executing next) (vm'.perform operation executing next))
    (checks : operation.checksSignature = true ->
      c.holds (vm.perform operation executing next) (vm'.perform operation executing next)) :
    c.holds (vm.perform operation executing next) (vm'.perform operation executing next) := by
  refine performs.toWorksAlike.perform operation executing next fun others => ?_
  cases operation with
  | pushNumber value => exact performs.pushNumber value
  | upgradableNoOperation => exact performs.reservedForUpgrade
  | stack operation =>
      cases operation with
      | depth => exact performs.depth (unmeasured.resolve_right fun other => other rfl)
      | _ => cases others
  | splice operation =>
      cases operation with
      | binToNum => exact performs.binToNum
      | size => exact performs.size
      | _ => cases others
  | unary operation => exact performs.unary operation
  | binary operation => exact performs.binary operation
  | numEqualVerify => exact performs.numEqualVerify (performs.binary .numEqual)
  | openBranch _ | elseBranch | closeBranch | codeSeparator => exact control rfl
  | checkSig _ | checkMultiSig _ | checkDataSig _ => exact checks rfl
  | checkLockTime => exact performs.checkLockTime
  | checkSequence => exact performs.checkSequence
  | introspect question => exact performs.introspect question
  | introspectToken side part => exact performs.introspectToken side part
  | _ => cases others

theorem permit (counting : c.AdmitsCounting) (instruction : Instruction) :
    c.holds (vm.permit instruction) (vm'.permit instruction) := by
  refine performs.toWorksAlike.permit counting instruction ?_
  rw [performs.isDisabled]
  exact c.ite (c.throw _ rfl) c.unit

end PerformsAlike

namespace Corresponds

/-- A single interpreter corresponds to itself as soon as the comparison holds
for its charges. -/
theorem self {c : Comparison} {vm : Interpreter} (changes : c.AdmitsChanges)
    (charge : forall cost, c.holds (vm.charge cost) (vm.charge cost))
    (chargeHash : forall length twofold,
      c.holds (vm.chargeHash length twofold) (vm.chargeHash length twofold)) :
    Corresponds c vm vm :=
  ⟨.self changes.toAdmitsStackChanges charge chargeHash, changes⟩

variable {c : Comparison} {vm vm' : Interpreter} (corresponds : Corresponds c vm vm')

include corresponds

/-- The comparison holds for every operation, provided that it holds for those
that check signatures and that nothing below the stack is measured. -/
theorem perform (operation : Operation) (executing : Bool) (next : Nat)
    (unmeasured : c.below = [] ∨ operation ≠ .stack .depth)
    (checks : operation.checksSignature = true ->
      c.holds (vm.perform operation executing next) (vm'.perform operation executing next)) :
    c.holds (vm.perform operation executing next) (vm'.perform operation executing next) :=
  corresponds.toPerformsAlike.perform operation executing next unmeasured
    (fun isControl => corresponds.control corresponds.allChanges.toAdmitsControlChanges isControl
      executing next) checks

theorem carryOut (instruction : Instruction) (next : Nat)
    (unmeasured : c.below = [] ∨ Opcode.operation instruction.opcode ≠ .stack .depth)
    (checks : ComparesChecks c vm vm' instruction) :
    c.holds (vm.carryOut instruction next) (vm'.carryOut instruction next) := by
  refine c.look fun machine => c.ite (corresponds.pushInstructionData instruction) ?_
  exact c.ite (corresponds.perform _ _ next unmeasured
    fun checksSignature => checks checksSignature _ next) c.unit

/-- The comparison holds for one instruction. -/
theorem step (bare : c.below = []) (instruction : Instruction) (next : Nat)
    (checks : ComparesChecks c vm vm' instruction) :
    c.holds (vm.step instruction next) (vm'.step instruction next) :=
  c.bind (corresponds.permit corresponds.allChanges.toAdmitsCounting instruction) fun _ =>
    c.bind (corresponds.carryOut instruction next (Or.inl bare) checks) fun _ =>
      corresponds.checkLimits bare

/-- The comparison holds for instructions one after another. -/
theorem runFrom (bare : c.below = []) (start : Nat) (instructions : List Instruction)
    (checks : forall instruction, instruction ∈ instructions ->
      ComparesChecks c vm vm' instruction) :
    c.holds (vm.runFrom start instructions) (vm'.runFrom start instructions) := by
  induction instructions generalizing start with
  | nil => exact c.unit
  | cons first rest inductionHypothesis =>
      refine c.bind (corresponds.step bare first _ ?_) fun _ => inductionHypothesis _ ?_
      · exact checks first List.mem_cons_self
      · intro instruction member
        exact checks instruction (List.mem_cons_of_mem first member)

/-- The comparison holds for a whole script. -/
theorem run (bare : c.below = []) (script : Script)
    (checks : forall instruction, instruction ∈ script.instructions ->
      ComparesChecks c vm vm' instruction) :
    c.holds (vm.run script) (vm'.run script) :=
  c.bind (corresponds.runFrom bare 0 script.instructions checks) fun _ => finish_holds c _

end Corresponds

/-- A script is evaluated by running it on a fresh machine, unless it is too
long. -/
theorem evaluate_eq_ok_iff {vm : Interpreter} {script : Script} {session after : Session} :
    vm.evaluate script session = .ok () after ↔
      script.bytes.length ≤ vm.limits.maxScriptSize.toNat ∧ ∃ machine,
        vm.run script { toSession := session, script := script } = .ok () machine ∧
        machine.toSession = after := by
  unfold evaluate
  by_cases long : script.bytes.length > vm.limits.maxScriptSize.toNat
  · rw [if_pos long]
    constructor
    · intro impossible
      cases impossible
    · rintro ⟨short, _⟩
      exact (Nat.not_lt_of_le short long).elim
  · rw [if_neg long]
    cases result : vm.run script { toSession := session, script := script } with
    | ok value machine =>
        constructor
        · intro success
          cases success
          exact ⟨Nat.le_of_not_lt long, machine, rfl, rfl⟩
        · rintro ⟨_, _, same, rfl⟩
          cases same
          rfl
    | error failure machine =>
        constructor
        · intro impossible
          cases impossible
        · rintro ⟨_, _, impossible, _⟩
          cases impossible

/-- The evaluation of a script that is not too long fails where its run fails. -/
theorem run_of_evaluate_eq_error {vm : Interpreter} {script : Script} {session after : Session}
    {failure : ScriptError} (failed : vm.evaluate script session = .error failure after) :
    failure = .scriptSize ∨ ∃ machine, vm.run script { toSession := session, script := script } =
      .error failure machine := by
  unfold evaluate at failed
  by_cases long : script.bytes.length > vm.limits.maxScriptSize.toNat
  · rw [if_pos long] at failed
    cases failed
    exact Or.inl rfl
  · rw [if_neg long] at failed
    cases result : vm.run script { toSession := session, script := script } with
    | ok value machine =>
        rw [result] at failed
        cases failed
    | error found machine =>
        rw [result] at failed
        cases failed
        exact Or.inr ⟨machine, rfl⟩

end Interpreter
end SpendRules

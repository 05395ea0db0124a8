import SpendRules.Proofs.Machine.Arithmetic
import SpendRules.Proofs.Machine.Steps
import SpendRules.Proofs.Machine.Tightening
import SpendRules.Proofs.Signature.Digest

namespace SpendRules

/-- The stack and each of its elements are shorter than half the range of a
word. -/
def Machine.FitsMemory (machine : Machine) : Prop :=
  machine.stack.length < 2 ^ 63 ∧ ∀ element ∈ machine.stack, element.length < 2 ^ 63

instance (machine : Machine) : Decidable machine.FitsMemory :=
  inferInstanceAs (Decidable (_ ∧ _))

namespace Interpreter

/-!
# Running under upgraded rules

The same script is run under two sets of rules, the second of which upgrades
the first one.  An upgrade enables operations, which fail a run that does not
have it, and it widens numbers: operands may have eight bytes instead of four.
But results, which were not bounded before, may then have no more than eight
bytes either.  Numbers of four bytes cannot get beyond this bound in one
operation, and answers about the transaction do not either.  This leaves the
lengths of elements and of the stack, which scripts can ask for.  Nothing but
the memory that holds them keeps them below the bound, so this is assumed of
every machine that the run gets to.
-/

/-! ## The machines of a run -/

/-- The machines that the instructions start on, as far as the run gets. -/
def machinesFrom (vm : Interpreter) (start : Nat) : List Instruction -> Machine -> List Machine
  | [], _ => []
  | instruction :: rest, machine =>
    let next := start + instruction.size
    machine ::
      match vm.step instruction next machine with
      | .ok _ after => vm.machinesFrom next rest after
      | .error _ _ => []

/-- The machines that the instructions of a script start on. -/
def machines (vm : Interpreter) (script : Script) (session : Session) : List Machine :=
  vm.machinesFrom 0 script.layout.instructions { toSession := session, script := script }

/-- The context belongs to the spending of an output without token, and all
answers about it are signed words. -/
structure SuitsUpgrades (context : SpendingContext) : Prop extends context.HasSignedWords where
  bare : context.spent.token = none

section

variable {vm : Interpreter} {later : RuleSet} (upgrades : later.Upgrades vm.rules)

include upgrades

/-- A rule that is no upgrade is active under both sets of rules or under
neither. -/
theorem enables_of_upgrades {rule : Rule} (other : rule ∉ Rule.upgrades) :
    vm.enables rule = (vm.withRules later).enables rule :=
  (upgrades.same rule other).symm

private theorem alike_of_upgrades : Alike vm (vm.withRules later) where
  limits := rfl
  hashes := rfl
  isMetered := enables_of_upgrades upgrades (by decide)
  unlockingLength := rfl

/-! ## Numbers -/

/-- The bounds on numbers are the same, or they are those of the narrowest and
of the wider numbers. -/
private theorem numberBounds_of_upgrades :
    vm.numberBounds = (vm.withRules later).numberBounds ∨
      (vm.numberBounds = { operandSize := 4, resultSize := none } ∧
        (vm.withRules later).numberBounds = { operandSize := 8, resultSize := some 8 }) := by
  have metered := (alike_of_upgrades upgrades).isMetered
  unfold numberBounds
  rw [← metered]
  cases vm.isMetered with
  | true => exact Or.inl rfl
  | false =>
      cases earlierWide : vm.enables .integers64 with
      | true =>
          have laterWide : (vm.withRules later).enables .integers64 = true :=
            upgrades.keeps _ earlierWide
          rw [laterWide]
          exact Or.inl rfl
      | false =>
          cases (vm.withRules later).enables .integers64 with
          | true => exact Or.inr ⟨rfl, rfl⟩
          | false => exact Or.inl rfl

private theorem operandSize_le :
    vm.numberBounds.operandSize ≤ (vm.withRules later).numberBounds.operandSize := by
  rcases numberBounds_of_upgrades upgrades with same | ⟨narrow, wide⟩
  · exact Nat.le_of_eq (congrArg _ same)
  · rw [narrow, wide]
    decide

private theorem worksAlike_of_upgrades :
    WorksAlike Comparison.admission vm (vm.withRules later) := by
  refine .of_refl rfl (alike_of_upgrades upgrades) Comparison.admission_refl fun element => ?_
  apply Comparison.admission_ofExcept
  intro number decoded
  rw [ScriptNumber.decode_eq_ok_iff] at decoded ⊢
  rw [← enables_of_upgrades upgrades (by decide)]
  exact ⟨Nat.le_trans decoded.1 (operandSize_le upgrades), decoded.2⟩

/-- A number is pushed under the later rules too, if it is bounded in the same
way or is small. -/
private theorem pushNumber_of_upgrades {number : Int}
    (small : vm.numberBounds = (vm.withRules later).numberBounds ∨ number.natAbs < 2 ^ 63) :
    Comparison.admission.holds (vm.pushNumber number) ((vm.withRules later).pushNumber number) := by
  let c := Comparison.admission
  refine c.bind (Comparison.admission_ofExcept fun result checked => ?_) fun number =>
    (worksAlike_of_upgrades upgrades).push _
  rcases numberBounds_of_upgrades upgrades with same | ⟨narrow, wide⟩
  · rwa [← same]
  -- Nothing was checked before, so the number itself has to be small.
  · rw [narrow] at checked
    cases checked
    rw [wide]
    refine ScriptNumber.checkResult_of_small (small.resolve_left ?_)
    rw [narrow, wide]
    decide

/-- Operands are bounded in the same way, or they have four bytes. -/
private theorem small_of_popNumber {number : Int} (yielded : vm.popNumber.Yields number) :
    vm.numberBounds = (vm.withRules later).numberBounds ∨ number.natAbs < 2 ^ 31 := by
  refine (numberBounds_of_upgrades upgrades).imp_right fun bounds => ?_
  have operand := natAbs_lt_of_popNumber yielded
  rwa [bounds.1] at operand

private theorem unary_of_upgrades (operation : UnaryOperation) :
    Comparison.admission.holds (vm.unary operation) ((vm.withRules later).unary operation) := by
  refine (worksAlike_of_upgrades upgrades).unary operation fun number yielded =>
    pushNumber_of_upgrades upgrades ?_
  exact (small_of_popNumber upgrades yielded).imp_right fun small =>
    natAbs_unaryResult_lt small operation

private theorem binary_of_upgrades (operation : BinaryOperation) :
    Comparison.admission.holds (vm.binary operation) ((vm.withRules later).binary operation) := by
  refine (worksAlike_of_upgrades upgrades).binary operation fun a b result first second computed =>
    pushNumber_of_upgrades upgrades ?_
  rcases small_of_popNumber upgrades first with same | smallA
  · exact Or.inl same
  rcases small_of_popNumber upgrades second with same | smallB
  · exact Or.inl same
  exact Or.inr (natAbs_binaryResult_lt smallA smallB computed)

private theorem binToNum_of_upgrades :
    Comparison.admission.holds vm.binToNum (vm.withRules later).binToNum := by
  let c := Comparison.admission
  have alike := worksAlike_of_upgrades upgrades
  simp only [binToNum, Sequencing.throw_bind]
  refine c.bind alike.changes.pop fun element => Comparison.admission_unless ?_ (alike.push _)
  exact Nat.lt_of_le_of_lt (operandSize_le upgrades)

end

/-! ## The length of the stack and of an element -/

section

variable {vm : Interpreter} {later : RuleSet} (upgrades : later.Upgrades vm.rules)
  {machine after : Machine} (fits : machine.FitsMemory)

include upgrades fits

private theorem depth_of_upgrades (pushed : vm.rearrangeStacks .depth machine = .ok () after) :
    (vm.withRules later).rearrangeStacks .depth machine = .ok () after := by
  have small : (machine.stack.length : Int).natAbs < 2 ^ 63 := fits.1
  exact pushNumber_of_upgrades upgrades (Or.inr small) _ _ _ pushed

private theorem size_of_upgrades (pushed : vm.splice .size machine = .ok () after) :
    (vm.withRules later).splice .size machine = .ok () after := by
  rcases Sequencing.bind_eq_ok_iff.mp pushed with ⟨element, middle, looked, rest⟩
  have small : (element.length : Int).natAbs < 2 ^ 63 :=
    fits.2 element (List.mem_of_getElem? (Step.elementAt_eq_ok_iff.mp looked).1)
  refine Sequencing.bind_eq_ok_iff.mpr ⟨element, middle, looked, ?_⟩
  exact pushNumber_of_upgrades upgrades (Or.inr small) _ _ _ rest

end

/-! ## Rules and the context -/

/-- Nothing is demanded of what comes after a failure. -/
private theorem admission_of_disabled {enabled : Bool} {step second : Step Unit}
    (disabled : enabled = false) :
    Comparison.admission.holds (if !enabled then throw .badOpcode else step) second := by
  intro state value after success
  rw [disabled] at success
  exact (Sequencing.throw_ne_ok success).elim

section

variable {vm : Interpreter} {later : RuleSet} (upgrades : later.Upgrades vm.rules)

include upgrades

private theorem reservedForUpgrade_of_upgrades :
    Comparison.admission.holds vm.reservedForUpgrade (vm.withRules later).reservedForUpgrade := by
  unfold reservedForUpgrade
  rw [← enables_of_upgrades upgrades (by decide)]
  exact Comparison.admission_refl _

private theorem lockTimeOperand_of_upgrades :
    Comparison.admission.holds vm.lockTimeOperand (vm.withRules later).lockTimeOperand := by
  refine lockTimeOperand_holds _ fun element => ?_
  rw [← enables_of_upgrades upgrades (by decide)]
  exact Comparison.admission_refl _

/-- An opcode that is enabled stays enabled. -/
private theorem admission_permit (instruction : Instruction) :
    Comparison.admission.holds (vm.permit instruction)
      ((vm.withRules later).permit instruction) := by
  have changes : Comparison.admission.AdmitsChanges := .of_refl rfl Comparison.admission_refl
  refine (worksAlike_of_upgrades upgrades).permit changes.toAdmitsCounting instruction ?_
  refine Comparison.admission_unless ?_ (Comparison.admission_refl _)
  intro disabled
  unfold isDisabled at disabled ⊢
  rw [← (alike_of_upgrades upgrades).isMetered] at disabled
  rw [Bool.or_eq_true, Bool.and_eq_true, Bool.and_eq_true, Bool.not_eq_true'] at disabled ⊢
  refine disabled.imp_right (And.imp_left (And.imp_right fun narrow => ?_))
  cases wide : vm.enables .integers64 with
  | false => rfl
  | true =>
      have laterWide : (vm.withRules later).enables .integers64 = true := upgrades.keeps _ wide
      rw [laterWide] at narrow
      cases narrow

variable (suits : forall context, vm.context = some context -> SuitsUpgrades context)

include suits

private theorem answers_of_upgrades (context : SpendingContext) (number : Int)
    (own : vm.context = some context) (answers : context.Answers number) :
    Comparison.admission.holds (vm.pushNumber number) ((vm.withRules later).pushNumber number) :=
  pushNumber_of_upgrades upgrades (Or.inr ((suits context own).natAbs_lt answers))

private theorem introspect_of_upgrades (question : Introspection) :
    Comparison.admission.holds (vm.introspect question)
      ((vm.withRules later).introspect question) := by
  cases enabled : vm.enables .nativeIntrospection with
  | true =>
      have laterEnabled : (vm.withRules later).enables .nativeIntrospection = true :=
        upgrades.keeps _ enabled
      exact (worksAlike_of_upgrades upgrades).introspect (contextsAlike_of_eq _ rfl)
        (enabled.trans laterEnabled.symm)
        (answers_of_upgrades upgrades suits) question
  | false =>
      simp only [introspect, Sequencing.throw_bind]
      exact admission_of_disabled enabled

private theorem introspectToken_of_upgrades (side : TokenSide) (part : TokenPart) :
    Comparison.admission.holds (vm.introspectToken side part)
      ((vm.withRules later).introspectToken side part) := by
  cases enabled : vm.enables .tokens with
  | true =>
      have laterEnabled : (vm.withRules later).enables .tokens = true := upgrades.keeps _ enabled
      exact (worksAlike_of_upgrades upgrades).introspectToken (contextsAlike_of_eq _ rfl)
        (enabled.trans laterEnabled.symm) (answers_of_upgrades upgrades suits) side part
  | false =>
      simp only [introspectToken, Sequencing.throw_bind]
      exact admission_of_disabled enabled

private theorem checkSignature_of_upgrades (signature key : Bytes) (code : Script) :
    Comparison.admission.holds (vm.checkSignature signature key code)
      ((vm.withRules later).checkSignature signature key code) := by
  let c := Comparison.admission
  unfold checkSignature
  cases signature.getLast? with
  | none => exact c.pure false
  | some hashByte =>
      refine c.sequence (Comparison.admission_refl vm.demandContext) fun context yielded => ?_
      have bare := (suits context (context_of_demandContext yielded)).bare
      exact c.bind (Comparison.admission_ofExcept fun _ => SigHash.digest_of_upgrades upgrades bare)
        fun _ =>
        Comparison.admission_refl _

private theorem checksAlike_of_upgrades :
    ChecksAlike Comparison.admission vm (vm.withRules later) where
  toWorksAlike := worksAlike_of_upgrades upgrades
  toFormsAlike := formsAlike_of_admitsForms (Signature.admitsForms_of_upgrades upgrades)
  withoutSignature := withoutSignature_congr (enables_of_upgrades upgrades (by decide))
  schnorrMultisig := enables_of_upgrades upgrades (by decide)
  ask _ := Comparison.admission_refl _
  checkSignature signature key code _ :=
    checkSignature_of_upgrades upgrades suits signature key code
  demandEmpty valid signatures := by
    unfold demandEmpty
    rw [← enables_of_upgrades upgrades (by decide)]
    exact Comparison.admission_refl _
  countSigChecks count := by
    rw [(alike_of_upgrades upgrades).countSigChecks]
    exact Comparison.admission_refl _

/-! ## Runs -/

/-- All operations but two compare on every machine. -/
private theorem admission_perform (operation : Operation) (executing : Bool) (next : Nat)
    (constant : forall value, operation = .pushNumber value -> value.natAbs < 2 ^ 63)
    (notDepth : operation ≠ .stack .depth) (notSize : operation ≠ .splice .size) :
    Comparison.admission.holds (vm.perform operation executing next)
      ((vm.withRules later).perform operation executing next) := by
  have alike := worksAlike_of_upgrades upgrades
  have checks := checksAlike_of_upgrades upgrades suits
  have reserved := reservedForUpgrade_of_upgrades upgrades
  have operand := lockTimeOperand_of_upgrades upgrades
  have changes : Comparison.admission.AdmitsChanges := .of_refl rfl Comparison.admission_refl
  refine alike.perform operation executing next fun others => ?_
  cases operation with
  | openBranch _ | elseBranch | closeBranch | codeSeparator =>
      exact alike.control changes.toAdmitsControlChanges rfl executing next
  | pushNumber value => exact pushNumber_of_upgrades upgrades (Or.inr (constant value rfl))
  | upgradableNoOperation => exact reserved
  | stack operation =>
      cases operation with
      | depth => exact (notDepth rfl).elim
      | _ => cases others
  | splice operation =>
      cases operation with
      | binToNum => exact binToNum_of_upgrades upgrades
      | size => exact (notSize rfl).elim
      | _ => cases others
  | unary operation => exact unary_of_upgrades upgrades operation
  | binary operation => exact binary_of_upgrades upgrades operation
  | numEqualVerify => exact alike.numEqualVerify (binary_of_upgrades upgrades .numEqual)
  | checkSig required => exact checks.checkSig required
  | checkMultiSig required => exact checks.checkMultiSig changes.toAdmitsCounting required
  | checkDataSig required => exact checks.checkDataSig required
  | checkLockTime =>
      exact checkLockTime_holds _ (contextsAlike_of_eq _ rfl) operand reserved
        (enables_of_upgrades upgrades (by decide))
  | checkSequence =>
      exact checkSequence_holds _ (contextsAlike_of_eq _ rfl) operand reserved
        (enables_of_upgrades upgrades (by decide))
  | introspect question => exact introspect_of_upgrades upgrades suits question
  | introspectToken side part => exact introspectToken_of_upgrades upgrades suits side part
  | _ => cases others

private theorem carryOut_of_upgrades {instruction : Instruction} {next : Nat}
    {machine after : Machine} (fits : machine.FitsMemory)
    (carried : vm.carryOut instruction next machine = .ok () after) :
    (vm.withRules later).carryOut instruction next machine = .ok () after := by
  have push := (worksAlike_of_upgrades upgrades).pushInstructionData
    (enables_of_upgrades upgrades (by decide)) instruction
  have constant (value : Int) (pushes : Opcode.operation instruction.opcode = .pushNumber value) :
      value.natAbs < 2 ^ 63 := Nat.lt_of_le_of_lt (Opcode.natAbs_le_of_operation pushes) (by decide)
  unfold carryOut at carried ⊢
  rw [Sequencing.get_bind] at carried ⊢
  split at carried
  · rename_i pushes
    rw [if_pos pushes]
    exact push _ _ _ carried
  rename_i other
  rw [if_neg other]
  split at carried
  · rename_i performs
    rw [if_pos performs]
    generalize Opcode.operation instruction.opcode = operation at carried constant ⊢
    -- Two operations push a length, which only the machine that they start on bounds.
    by_cases isDepth : operation = .stack .depth
    · subst isDepth
      exact depth_of_upgrades upgrades fits carried
    by_cases isSize : operation = .splice .size
    · subst isSize
      exact size_of_upgrades upgrades fits carried
    exact admission_perform upgrades suits operation _ next constant isDepth isSize _ _ _ carried
  · rename_i passes
    rw [if_neg passes]
    exact carried

/-- From a machine that fits in memory, an instruction does under the later
rules what it does under the earlier ones. -/
theorem step_of_upgrades {instruction : Instruction} {next : Nat} {machine after : Machine}
    (fits : machine.FitsMemory) (stepped : vm.step instruction next machine = .ok () after) :
    (vm.withRules later).step instruction next machine = .ok () after := by
  rcases Sequencing.bind_eq_ok_iff.mp stepped with ⟨_, permitted, permits, rest⟩
  rcases Sequencing.bind_eq_ok_iff.mp rest with ⟨_, carried, carries, limits⟩
  have kept : permitted.stack = machine.stack := by
    rw [← eq_of_permit permits]
  have stillFits : permitted.FitsMemory := by
    unfold Machine.FitsMemory
    rwa [kept]
  refine Sequencing.bind_eq_ok_iff.mpr
    ⟨(), permitted, admission_permit upgrades instruction _ _ _ permits, ?_⟩
  refine Sequencing.bind_eq_ok_iff.mpr
    ⟨(), carried, carryOut_of_upgrades upgrades suits stillFits carries, ?_⟩
  exact (worksAlike_of_upgrades upgrades).checkLimits rfl _ _ _ limits

/-- A run goes through the same machines under both sets of rules, as long as
all of them fit in memory. -/
theorem runFrom_of_upgrades {start : Nat} {instructions : List Instruction}
    {machine after : Machine}
    (fits : forall state, state ∈ vm.machinesFrom start instructions machine -> state.FitsMemory)
    (ran : vm.runFrom start instructions machine = .ok () after) :
    (vm.withRules later).runFrom start instructions machine = .ok () after := by
  induction instructions generalizing start machine with
  | nil => exact ran
  | cons first rest inductionHypothesis =>
      rcases Sequencing.bind_eq_ok_iff.mp ran with ⟨_, middle, stepped, remaining⟩
      -- After a success, the machines that are left are those of the rest of the run.
      have unfolded : vm.machinesFrom start (first :: rest) machine =
          machine :: vm.machinesFrom (start + first.size) rest middle := by
        simp only [machinesFrom]
        rw [stepped]
      rw [unfolded] at fits
      have fitsFirst := fits machine List.mem_cons_self
      refine Sequencing.bind_eq_ok_iff.mpr
        ⟨(), middle, step_of_upgrades upgrades suits fitsFirst stepped, ?_⟩
      exact inductionHypothesis
        (fun state member => fits state (List.mem_cons_of_mem _ member)) remaining

/-- A script that is evaluated under the earlier rules, in memory, is evaluated
under the later rules, with the same result. -/
theorem evaluate_of_upgrades {script : Script} {session after : Session}
    (fits : forall state, state ∈ vm.machines script session -> state.FitsMemory)
    (evaluated : vm.evaluate script session = .ok () after) :
    (vm.withRules later).evaluate script session = .ok () after := by
  rw [evaluate_eq_ok_iff] at evaluated ⊢
  rcases evaluated with ⟨short, machine, ran, rfl⟩
  refine ⟨short, machine, ?_, rfl⟩
  rcases Sequencing.bind_eq_ok_iff.mp ran with ⟨_, middle, remaining, finished⟩
  exact Sequencing.bind_eq_ok_iff.mpr
    ⟨(), middle, runFrom_of_upgrades upgrades suits fits remaining, finished⟩

end

end Interpreter
end SpendRules

import SpendRules.Proofs.Machine.OperationBounds

namespace SpendRules

/-- Tokens of the context have commitments that a decoded token can have.  Its
lists are shorter than the range of a word, as lists in memory are. -/
structure SpendingContext.FitsElements (context : SpendingContext) : Prop where
  inputCount : context.tx.inputs.length < 2 ^ 64
  outputCount : context.tx.outputs.length < 2 ^ 64
  commitments : forall output, output ∈ context.outputs ->
    forall token, output.token = some token ->
    token.commitment.length ≤ 40

/-- Answers about such a context are words. -/
theorem SpendingContext.FitsElements.natAbs_lt {context : SpendingContext}
    (fits : context.FitsElements) {number : Int} (answers : context.Answers number) :
    number.natAbs < 2 ^ 64 := by
  cases answers with
  | word word =>
      have bound := word.toNat_lt
      omega
  | signedWord word =>
      have below := word.toInt_lt
      have above := word.le_toInt
      omega
  | index =>
      have bound := (List.getElem?_eq_some_iff.mp context.input_eq).1
      have count := fits.inputCount
      omega
  | inputCount => exact fits.inputCount
  | outputCount => exact fits.outputCount
  | value output _ => exact output.value.toNat_lt
  | amount output _ =>
      have below := ((output.token.map Token.amountOrZero).getD 0).toInt_lt
      have above := ((output.token.map Token.amountOrZero).getD 0).le_toInt
      omega

namespace Interpreter

/-!
# The limits on the stacks

Between two instructions, the stacks are no higher and their elements no longer
than the limits.  The height is checked after each instruction.  The length of
elements is not, so this rests on what every operation pushes.

An element of forty bytes must be permitted, the length of the longest
commitment of a token.  Everything else that is pushed without a check is
shorter.
-/

variable {vm : Interpreter}

/-! ## Checks of signatures

The verifier and the accounts are not on the stacks.
-/

private theorem asksAlike_keeping_stacks (vm : Interpreter) :
    AsksAlike (Comparison.keeping Machine.stacks) vm vm :=
  .keeping vm (fun _ _ => rfl) fun _ _ => rfl

private theorem countAt_bounds {limit : Nat} (index bound : Nat) (failure : ScriptError) :
    Step.Bounds limit (fun _ => True) (vm.countAt index bound failure) := by
  simp only [countAt, Sequencing.throw_bind]
  exact (Step.elementAt_bounds index).bind fun element _ =>
    Step.ofExcept_bounds.bind fun number _ =>
    .refuse fun _ => .pure trivial

private theorem countKeys_bounds {limit : Nat} (keyCount : Nat) :
    Step.Bounds limit (fun _ => True) (vm.countKeys keyCount) := by
  have counts : Step.Bounds limit (fun _ => True)
      (modify fun machine : Machine => { machine with opCount := machine.opCount + keyCount }) :=
    .modify fun _ bounded => ⟨bounded.stack, bounded.altStack⟩
  exact .ite (fun _ => counts.bind fun _ _ => .look fun _ _ => .refuse fun _ => .unit)
    fun _ => .unit

section

variable (wide : 40 ≤ vm.maxElementSize)

include wide

private theorem conclude_bounds {rest : List Bytes} (within : ElementsWithin vm.maxElementSize rest)
    (valid required : Bool) (failure : ScriptError) :
    Step.Bounds vm.maxElementSize (fun _ => True) (do
      Step.setStack rest
      vm.pushBool valid
      Step.verifyTopIf required failure) :=
  (Step.setStack_bounds within).bind fun _ _ => (pushBool_bounds wide valid).bind fun _ _ =>
    Step.verifyTopIf_bounds required failure

private theorem checkSig_bounds (required : Bool) :
    Step.Bounds vm.maxElementSize (fun _ => True) (vm.checkSig required) := by
  refine .lookStack fun stack within => ?_
  rcases stack with _ | ⟨key, _ | ⟨signature, rest⟩⟩
  · exact .throw _
  · exact .throw _
  simp only [ElementsWithin.cons_iff] at within
  have asks := asksAlike_keeping_stacks vm
  have concludes (valid : Bool) := conclude_bounds wide within.2.2 valid required .checkSigVerify
  have admits : Step.Bounds vm.maxElementSize
      (fun _ => Signature.checkTransaction signature vm.rules = .ok ())
      (Step.ofExcept (Signature.checkTransaction signature vm.rules)) :=
        .ofExcept fun _ checked => checked
  refine admits.bind fun _ admitted => Step.ofExcept_bounds.bind fun _ _ =>
    .look fun machine _ => ?_
  refine (Step.Bounds.of_keeping (asks.checkSignature signature key _ admitted)).bind
    fun valid _ => ?_
  refine (Step.Bounds.of_keeping (asks.demandEmpty valid [signature])).bind fun _ _ => ?_
  refine .ite (fun _ => ?_) fun _ => concludes valid
  exact (Step.Bounds.of_keeping (asks.countSigChecks 1)).bind fun _ _ => concludes valid

private theorem checkDataSig_bounds (required : Bool) :
    Step.Bounds vm.maxElementSize (fun _ => True) (vm.checkDataSig required) := by
  refine .lookStack fun stack within => ?_
  rcases stack with _ | ⟨key, _ | ⟨message, _ | ⟨signature, rest⟩⟩⟩
  · exact .throw _
  · exact .throw _
  · exact .throw _
  simp only [ElementsWithin.cons_iff] at within
  have asks := asksAlike_keeping_stacks vm
  have checks := asks.checkDataSignature (chargeHash_keeps_stacks vm) signature message key
  refine Step.ofExcept_bounds.bind fun _ _ => Step.ofExcept_bounds.bind fun _ _ => ?_
  refine (Step.Bounds.of_keeping checks).bind fun valid _ => ?_
  refine (Step.Bounds.of_keeping (asks.demandEmpty valid [signature])).bind fun _ _ => ?_
  exact conclude_bounds wide within.2.2.2 valid required _

private theorem checkMultiSig_bounds (required : Bool) :
    Step.Bounds vm.maxElementSize (fun _ => True) (vm.checkMultiSig required) := by
  have asks := asksAlike_keeping_stacks vm
  refine (countAt_bounds _ _ _).bind fun keyCount _ =>
    (countKeys_bounds keyCount).bind fun _ _ => ?_
  refine (countAt_bounds _ _ _).bind fun sigCount _ => (Step.require_bounds _).bind fun _ _ => ?_
  refine .look fun machine bounded => (Step.elementAt_bounds _).bind fun bitfield _ => ?_
  have rest := bounded.stack.of_subset (List.drop_subset (3 + keyCount + sigCount) machine.stack)
  refine .ite (fun _ => ?_) fun _ => ?_
  · exact (Step.Bounds.of_keeping (asks.checkMultiSigBySelection _ _ _ _)).bind fun valid _ =>
      conclude_bounds wide rest valid required _
  · exact (Step.Bounds.of_keeping (asks.checkMultiSigByMatching _ _ _)).bind fun valid _ =>
      conclude_bounds wide rest valid required _

end

/-! ## Questions about the transaction -/

private theorem length_categoryElement_le (token : Option Token) :
    (categoryElement token).length ≤ 33 := by
  unfold categoryElement
  cases token with
  | none => exact Nat.zero_le _
  | some token =>
      have category := token.category.length_eq
      dsimp only
      split
      all_goals simp [category]

private theorem demandContext_bounds {limit : Nat} :
    Step.Bounds limit (fun context => vm.context = some context) vm.demandContext := by
  unfold demandContext
  cases vm.context with
  | none => exact .throw _
  | some context => exact .pure rfl

private theorem popElementOf_bounds {α : Type} {limit : Nat} (elements : List α)
    (failure : ScriptError) :
    Step.Bounds limit (fun _ => True) (vm.popElementOf elements failure) := by
  simp only [popElementOf, Sequencing.throw_bind]
  refine popIndex_bounds.bind fun index _ => .refuse fun _ => ?_
  cases elements[index.toNat]? with
  | none => exact .throw _
  | some element => exact .pure trivial

private theorem popCreated_bounds {limit : Nat} (context : SpendingContext) :
    Step.Bounds limit (fun output => output ∈ context.outputs) (vm.popCreated context) := by
  have pops : Step.Bounds limit (fun _ => True) (vm.popCreated context) :=
    (popElementOf_bounds _ _).bind fun _ _ => .pure trivial
  exact pops.of_yields fun _ => mem_of_popCreated

private theorem popSpent_bounds {limit : Nat} (context : SpendingContext) :
    Step.Bounds limit (fun output => output ∈ context.outputs) (vm.popSpent context) := by
  have pops : Step.Bounds limit (fun _ => True) (vm.popSpent context) :=
    (popElementOf_bounds _ _).bind fun _ _ => Step.ofExcept_bounds
  exact pops.of_yields fun _ => mem_of_popSpent

section

variable (wide : 40 ≤ vm.maxElementSize)
  (suits : forall context, vm.context = some context -> context.FitsElements)

include wide suits

private theorem answer_bounds {context : SpendingContext} {number : Int}
    (own : vm.context = some context) (answers : context.Answers number) :
    Step.Bounds vm.maxElementSize (fun _ => True) (vm.pushNumber number) :=
  pushNumber_bounds wide fun _ => (suits context own).natAbs_lt answers

private theorem introspect_bounds (question : Introspection) :
    Step.Bounds vm.maxElementSize (fun _ => True) (vm.introspect question) := by
  simp only [introspect, Sequencing.throw_bind]
  refine .refuse fun _ => demandContext_bounds.bind fun context own => ?_
  have answer {number : Int} (answers : context.Answers number) :=
    answer_bounds wide suits own answers
  cases question with
  | inputIndex => exact answer .index
  | activeBytecode => exact .look fun _ _ => pushBounded_bounds _
  | txVersion => exact answer (.signedWord _)
  | txInputCount => exact answer .inputCount
  | txOutputCount => exact answer .outputCount
  | txLockTime => exact answer (.word _)
  | utxoValue =>
      exact (popSpent_bounds context).bind fun output known => answer (.value output known)
  | utxoBytecode => exact (popSpent_bounds context).bind fun _ _ => pushBounded_bounds _
  | outpointTxHash =>
      refine (popElementOf_bounds _ _).bind fun found _ => push_bounds ?_
      rw [found.2.prevout.hash.length_eq]
      exact Nat.le_trans (by decide) wide
  | outpointIndex | inputSequence =>
      exact (popElementOf_bounds _ _).bind fun _ _ => answer (.word _)
  | inputBytecode => exact (popElementOf_bounds _ _).bind fun _ _ => pushBounded_bounds _
  | outputValue =>
      exact (popCreated_bounds context).bind fun output known => answer (.value output known)
  | outputBytecode => exact (popCreated_bounds context).bind fun _ _ => pushBounded_bounds _

private theorem introspectToken_bounds (side : TokenSide) (part : TokenPart) :
    Step.Bounds vm.maxElementSize (fun _ => True) (vm.introspectToken side part) := by
  simp only [introspectToken, Sequencing.throw_bind]
  refine .refuse fun _ => demandContext_bounds.bind fun context own => ?_
  have category (output : Output) :
      Step.Bounds vm.maxElementSize (fun _ => True) (vm.push (categoryElement output.token)) :=
    push_bounds (Nat.le_trans (length_categoryElement_le output.token)
      (Nat.le_trans (by decide) wide))
  have commitment {output : Output} (known : output ∈ context.outputs) :
      Step.Bounds vm.maxElementSize (fun _ => True)
        (vm.push ((output.token.map Token.commitment).getD [])) := by
    refine push_bounds ?_
    cases carried : output.token with
    | none => exact Nat.zero_le _
    | some token =>
        exact Nat.le_trans ((suits context own).commitments output known token carried) wide
  have amount {output : Output} (known : output ∈ context.outputs) :=
    answer_bounds wide suits own (.amount output known)
  cases side with
  | spent =>
      refine (popSpent_bounds context).bind fun output known => ?_
      cases part with
      | category => exact category output
      | commitment => exact commitment known
      | amount => exact amount known
  | created =>
      refine (popCreated_bounds context).bind fun output known => ?_
      cases part with
      | category => exact category output
      | commitment => exact commitment known
      | amount => exact amount known

end

/-! ## Instructions and runs -/

private theorem reservedForUpgrade_bounds {limit : Nat} :
    Step.Bounds limit (fun _ => True) vm.reservedForUpgrade :=
  .refuse fun _ => .unit

private theorem lockTime_bounds {limit : Nat} {check : Step Unit}
    (holds : forall c : Comparison, c.holds vm.reservedForUpgrade vm.reservedForUpgrade ->
      c.holds check check) :
    Step.Bounds limit (fun _ => True) check := by
  let c := Comparison.keeping Machine.stacks
  have reserved : c.holds vm.reservedForUpgrade vm.reservedForUpgrade :=
    c.ite (c.throw _ rfl) c.unit
  exact .of_keeping (holds c reserved)

section

variable (wide : 40 ≤ vm.maxElementSize) (hashes : vm.hashes = Hash.Algorithm.apply)
  (suits : forall context, vm.context = some context -> context.FitsElements)

include wide hashes suits

/-- All operations but one keep elements short from every machine.  That one
pushes the height of the stack. -/
private theorem perform_bounds (operation : Operation) (executing : Bool) (next : Nat)
    (constant : forall value, operation = .pushNumber value -> value.natAbs ≤ 16)
    (unmeasured : operation ≠ .stack .depth) :
    Step.Bounds vm.maxElementSize (fun _ => True) (vm.perform operation executing next) := by
  cases operation with
  | pushNumber value =>
      exact pushNumber_bounds wide fun _ => Nat.lt_of_le_of_lt (constant value rfl) (by decide)
  | noOperation => exact .unit
  | upgradableNoOperation => exact reservedForUpgrade_bounds
  | openBranch negated => exact openBranch_bounds negated executing
  | elseBranch => exact elseBranch_bounds
  | closeBranch => exact closeBranch_bounds
  | verify => exact Step.verifyTop_bounds .verify
  | stack operation =>
      exact rearrangeStacks_bounds operation fun depth => unmeasured (congrArg _ depth)
  | splice operation => exact splice_bounds wide operation
  | bitwise operation => exact bitwise_bounds operation
  | equal required => exact equal_bounds wide required
  | unary operation => exact unary_bounds wide operation
  | binary operation => exact binary_bounds wide operation
  | numEqualVerify => exact (binary_bounds wide .numEqual).bind fun _ _ =>
      Step.verifyTop_bounds .numEqualVerify
  | within => exact within_bounds wide
  | hash algorithm => exact hash_bounds hashes wide algorithm
  | codeSeparator => exact .modify fun _ bounded => ⟨bounded.stack, bounded.altStack⟩
  | checkSig required => exact checkSig_bounds wide required
  | checkMultiSig required => exact checkMultiSig_bounds wide required
  | checkDataSig required => exact checkDataSig_bounds wide required
  | checkLockTime =>
      exact lockTime_bounds fun c reserved =>
        checkLockTime_holds c (contextsAlike_of_eq c rfl) (lockTimeOperand_self c vm) reserved rfl
  | checkSequence =>
      exact lockTime_bounds fun c reserved =>
        checkSequence_holds c (contextsAlike_of_eq c rfl) (lockTimeOperand_self c vm) reserved rfl
  | introspect question => exact introspect_bounds wide suits question
  | introspectToken side part => exact introspectToken_bounds wide suits side part
  | halt | pushData | reservedBranch | disabled | invalid => exact .throw _

variable {instruction : Instruction} {next : Nat} {machine after : Machine}

/-- The data of an instruction is pushed if it is short, and the height of a
stack within its limit is a word. -/
private theorem carryOut_bounds (short : (instruction.data.getD []).length ≤ vm.maxElementSize)
    (low : machine.stack.length < 2 ^ 64) (bounded : machine.IsBounded vm.maxElementSize)
    (carried : vm.carryOut instruction next machine = .ok () after) :
    after.IsBounded vm.maxElementSize := by
  have pushes : Step.Bounds vm.maxElementSize (fun _ => True)
      (vm.pushInstructionData instruction) := by
    simp only [pushInstructionData, Sequencing.throw_bind]
    exact .refuse fun _ => push_bounds short
  have constant (value : Int) := @Opcode.natAbs_le_of_operation instruction.opcode value
  unfold carryOut at carried
  rw [Sequencing.get_bind] at carried
  generalize Opcode.operation instruction.opcode = operation at carried constant
  split at carried
  · exact (pushes machine () after bounded carried).1
  split at carried
  · by_cases depth : operation = .stack .depth
    · subst depth
      have pushesDepth := @pushNumber_bounds vm wide machine.stack.length fun _ => low
      exact (pushesDepth machine () after bounded carried).1
    · exact (perform_bounds wide hashes suits operation _ next constant depth machine () after
        bounded carried).1
  · rw [← (Sequencing.pure_eq_ok_iff.mp carried).2]
    exact bounded

/-- The stacks together are no higher than the limit, and none of their elements
is longer than the limit. -/
structure FitsLimits (vm : Interpreter) (machine : Machine) : Prop where
  height : machine.stack.length + machine.altStack.length ≤ vm.limits.maxStackSize.toNat
  elements : machine.IsBounded vm.maxElementSize

theorem step_fitsLimits (fits : vm.FitsLimits machine)
    (stepped : vm.step instruction next machine = .ok () after) :
    vm.FitsLimits after := by
  rcases step_eq_ok_iff.mp stepped with ⟨permitted, permits, carried, within⟩
  have short := length_le_of_permit permits
  have low : permitted.stack.length < 2 ^ 64 := by
    have height := fits.height
    have word := vm.limits.maxStackSize.toNat_lt
    rw [← eq_of_permit permits]
    dsimp only
    omega
  have bounded : permitted.IsBounded vm.maxElementSize := by
    rw [← eq_of_permit permits]
    exact ⟨fits.elements.stack, fits.elements.altStack⟩
  exact ⟨within.stackSize, carryOut_bounds wide hashes suits short low bounded carried⟩

theorem runFrom_fitsLimits {start : Nat} {instructions : List Instruction}
    (fits : vm.FitsLimits machine) (ran : vm.runFrom start instructions machine = .ok () after) :
    vm.FitsLimits after := by
  induction instructions generalizing start machine with
  | nil =>
      rw [← (Sequencing.pure_eq_ok_iff.mp ran).2]
      exact fits
  | cons first rest inductionHypothesis =>
      rcases Sequencing.bind_eq_ok_iff.mp ran with ⟨_, middle, stepped, remaining⟩
      exact inductionHypothesis (step_fitsLimits wide hashes suits fits stepped) remaining

end

/-- Wherever the run of a script has come to, the stacks are within the limits,
if the stack that it started on was. -/
theorem stackLimits_throughout (vm : Interpreter) (script : Script) (session : Session)
    (hashes : vm.hashes = Hash.Algorithm.apply) (wide : 40 ≤ vm.maxElementSize)
    (suits : forall context, vm.context = some context -> context.FitsElements)
    (height : session.stack.length ≤ vm.limits.maxStackSize.toNat)
    (short : forall element, element ∈ session.stack -> element.length ≤ vm.maxElementSize)
    (count : Nat) (machine : Machine)
    (ran : vm.runFrom 0 (script.instructions.take count)
      { toSession := session, script := script } = .ok () machine) :
    machine.stack.length + machine.altStack.length ≤ vm.limits.maxStackSize.toNat ∧
      forall element, element ∈ machine.stack ++ machine.altStack ->
        element.length ≤ vm.maxElementSize := by
  have initially : vm.FitsLimits { toSession := session, script := script } := ⟨height, short, .nil⟩
  have fits := runFrom_fitsLimits wide hashes suits initially ran
  refine ⟨fits.height, fun element member => ?_⟩
  rcases List.mem_append.mp member with main | aside
  · exact fits.elements.stack element main
  · exact fits.elements.altStack element aside

/-- An interpreter without rules, and with all limits at their defaults. -/
private def limitedInterpreter : Interpreter where
  rules := .empty
  verifier _ := .ok false

/-- A script that lays the number one aside and measures the stack. -/
private def measureStack : Script where
  bytes := [0x51, 0x6b, 0x74]

/-- In the end, the number lies aside and the height is on top. -/
theorem stackLimits_measureStack :
    let machine : Machine :=
      { stack := [[1], [3]], altStack := [[1]], script := measureStack, opCount := 2 }
    limitedInterpreter.runFrom 0 (measureStack.instructions.take 3)
        { stack := [[3]], script := measureStack } = .ok () machine ∧
      machine.stack.length + machine.altStack.length ≤ 1000 ∧
      forall element, element ∈ machine.stack ++ machine.altStack -> element.length ≤ 520 := by
  intro machine
  have instructions : measureStack.instructions.take 3 =
      [⟨0x51, [], none⟩, ⟨0x6b, [], none⟩, ⟨0x74, [], none⟩] := by
    decide +kernel
  have ran : limitedInterpreter.runFrom 0 (measureStack.instructions.take 3)
      { stack := [[3]], script := measureStack } = .ok () machine := by
    rw [instructions]
    rfl
  exact ⟨ran, stackLimits_throughout limitedInterpreter measureStack { stack := [[3]] } rfl
    (by decide) nofun (by decide) (by decide) 3 machine ran⟩

end Interpreter
end SpendRules

import SpendRules.Machine.Evaluation
import SpendRules.Proofs.Machine.Operations
import SpendRules.Proofs.SpendingContext

namespace SpendRules

/-- The numbers with which a context answers questions: words, lengths, and the
values and amounts of outputs. -/
inductive SpendingContext.Answers (context : SpendingContext) : Int -> Prop
  | word (word : UInt32) : context.Answers word.toNat
  | signedWord (word : Int32) : context.Answers word.toInt
  | index : context.Answers context.index
  | inputCount : context.Answers context.tx.inputs.length
  | outputCount : context.Answers context.tx.outputs.length
  | value (output : Output) (known : output ∈ context.outputs) : context.Answers output.value.toNat
  | amount (output : Output) (known : output ∈ context.outputs) :
    context.Answers ((output.token.map Token.amountOrZero).getD 0).toInt

namespace Interpreter

/-!
# Lock times and questions under two interpreters

Operations that look at the context of a spending depend on more than the
limits: on rules that activate them and on the context itself.  Where two
interpreters agree on these, a comparison holds for the operations too.  The
contexts themselves have to belong to one spending, and what they know about
the outputs that are spent has to compare.
-/

/-- The contexts belong to one spending, and a comparison holds between what
they know about the outputs that are spent. -/
structure ContextsAlike (c : Comparison) (context context' : SpendingContext) : Prop where
  tx : context.tx = context'.tx
  index : context.index = context'.index
  spentBy : forall index,
    c.holds (Step.ofExcept (context.spentBy index)) (Step.ofExcept (context'.spentBy index))

theorem ContextsAlike.input {c : Comparison} {context context' : SpendingContext}
    (alike : ContextsAlike c context context') : context.input = context'.input :=
  SpendingContext.input_congr alike.tx alike.index

/-- A context can stand on both sides. -/
theorem contextsAlike_of_eq (c : Comparison) {context context' : Option SpendingContext}
    (same : context = context') :
    context.Rel (ContextsAlike c) context' := by
  subst same
  cases context with
  | none => exact .none
  | some context => exact .some ⟨rfl, rfl, fun _ => c.ofExcept (context.stopsSteps_spentBy _)⟩

/-- A step that looks up the context in both interpreters and goes on with what
it finds. -/
theorem demandContext_bind (c : Comparison) {α : Type} {vm vm' : Interpreter}
    {next next' : SpendingContext -> Step α}
    (contexts : vm.context.Rel (ContextsAlike c) vm'.context)
    (nextHolds : forall context context', vm.context = some context ->
      ContextsAlike c context context' -> c.holds (next context) (next' context')) :
    c.holds (vm.demandContext >>= next) (vm'.demandContext >>= next') := by
  unfold demandContext
  cases own : vm.context with
  | none =>
      rw [own] at contexts
      cases other : vm'.context with
      | none => exact c.throw _ rfl
      | some context' =>
          rw [other] at contexts
          cases contexts
  | some context =>
      rw [own] at contexts
      cases other : vm'.context with
      | none =>
          rw [other] at contexts
          cases contexts
      | some context' =>
          rw [other] at contexts
          cases contexts with
          | some alike => exact nextHolds context context' own alike

/-! ## What a context is asked for -/

theorem context_of_demandContext {vm : Interpreter} {context : SpendingContext}
    (yielded : vm.demandContext.Yields context) : vm.context = some context := by
  rcases yielded with ⟨state, after, success⟩
  unfold demandContext at success
  cases own : vm.context with
  | none =>
      rw [own] at success
      exact (Sequencing.throw_ne_ok success).elim
  | some found =>
      rw [own] at success
      exact congrArg some (Sequencing.pure_eq_ok_iff.mp success).1

/-- Elements that are looked up by their index are elements of the list. -/
theorem mem_of_popElementOf {vm : Interpreter} {α : Type} {elements : List α}
    {failure : ScriptError} {found : Nat × α}
    (yielded : (vm.popElementOf elements failure).Yields found) : found.2 ∈ elements := by
  rcases yielded with ⟨state, after, success⟩
  simp only [Interpreter.popElementOf, Sequencing.throw_bind] at success
  rcases Sequencing.bind_eq_ok_iff.mp success with ⟨index, middle, _, rest⟩
  rcases Sequencing.unless_eq_ok_iff.mp rest with ⟨_, rest⟩
  cases looked : elements[index.toNat]? with
  | none =>
      rw [looked] at rest
      exact (Sequencing.throw_ne_ok rest).elim
  | some element =>
      rw [looked] at rest
      rw [← (Sequencing.pure_eq_ok_iff.mp rest).1]
      exact List.mem_of_getElem? looked

theorem mem_of_popCreated {vm : Interpreter} {context : SpendingContext} {output : Output}
    (yielded : (vm.popCreated context).Yields output) : output ∈ context.outputs := by
  rcases yielded with ⟨state, after, success⟩
  rcases Sequencing.bind_eq_ok_iff.mp success with ⟨found, middle, popped, rest⟩
  rw [← (Sequencing.pure_eq_ok_iff.mp rest).1]
  exact SpendingContext.mem_outputs_of_created (mem_of_popElementOf ⟨state, middle, popped⟩)

theorem mem_of_popSpent {vm : Interpreter} {context : SpendingContext} {output : Output}
    (yielded : (vm.popSpent context).Yields output) : output ∈ context.outputs := by
  rcases yielded with ⟨state, after, success⟩
  rcases Sequencing.bind_eq_ok_iff.mp success with ⟨found, middle, _, rest⟩
  exact SpendingContext.mem_outputs_of_spentBy (Step.yields_ofExcept_iff.mp ⟨middle, after, rest⟩)

/-! ## Lock times -/

/-- The length of an operand that is a time does not depend on the limits, so
only its form is left to differ. -/
theorem lockTimeOperand_holds (c : Comparison) {vm vm' : Interpreter}
    (decode : forall element, c.holds
      (Step.ofExcept (ScriptNumber.decode element (vm.enables .minimalData) lockTimeOperandSize))
      (Step.ofExcept
        (ScriptNumber.decode element (vm'.enables .minimalData) lockTimeOperandSize))) :
    c.holds vm.lockTimeOperand vm'.lockTimeOperand := by
  simp only [lockTimeOperand, Sequencing.throw_bind]
  exact c.bind (c.elementAt 0) fun element => c.bind (decode element) fun time =>
    c.ite (c.throw _ rfl) (c.pure time.toNat)

theorem lockTimeOperand_self (c : Comparison) (vm : Interpreter) :
    c.holds vm.lockTimeOperand vm.lockTimeOperand :=
  lockTimeOperand_holds c fun _ => c.ofExcept (ScriptNumber.stopsSteps_decode _ _ _)

section

variable (c : Comparison) {vm vm' : Interpreter}
  (contexts : vm.context.Rel (ContextsAlike c) vm'.context)
  (operand : c.holds vm.lockTimeOperand vm'.lockTimeOperand)
  (reserved : c.holds vm.reservedForUpgrade vm'.reservedForUpgrade)

include contexts operand reserved

theorem checkLockTime_holds (enabled : vm.enables .checkLockTime = vm'.enables .checkLockTime) :
    c.holds vm.checkLockTime vm'.checkLockTime := by
  unfold checkLockTime
  rw [enabled]
  refine c.ite (c.bind operand fun time => demandContext_bind c contexts
    fun context context' _ alike => ?_) reserved
  unfold reachesLockTime
  rw [alike.tx, alike.input]
  exact c.ite (c.throw _ rfl) c.unit

theorem checkSequence_holds (enabled : vm.enables .checkSequence = vm'.enables .checkSequence) :
    c.holds vm.checkSequence vm'.checkSequence := by
  unfold checkSequence
  rw [enabled]
  refine c.ite (c.bind operand fun time => c.ite ?_ c.unit) reserved
  refine demandContext_bind c contexts fun context context' _ alike => ?_
  unfold reachesSequence
  rw [alike.tx, alike.input]
  exact c.ite (c.throw _ rfl) c.unit

end

namespace WorksAlike

variable {c : Comparison} {vm vm' : Interpreter} (alike : WorksAlike c vm vm')

section

include alike

private theorem popElementOf {α : Type} (elements : List α) (failure : ScriptError)
    (stops : failure.stopsSteps = true) :
    c.holds (vm.popElementOf elements failure) (vm'.popElementOf elements failure) := by
  simp only [Interpreter.popElementOf, Sequencing.throw_bind]
  refine c.bind alike.popIndex fun index => c.ite (c.throw failure stops) ?_
  cases elements[index.toNat]? with
  | none => exact c.throw failure stops
  | some element => exact c.pure (index.toNat, element)

variable {context context' : SpendingContext} (contexts : ContextsAlike c context context')

include contexts

private theorem popInput : c.holds (vm.popInput context) (vm'.popInput context') := by
  unfold Interpreter.popInput
  rw [contexts.tx]
  exact alike.popElementOf _ _ rfl

private theorem popCreated : c.holds (vm.popCreated context) (vm'.popCreated context') := by
  unfold Interpreter.popCreated
  rw [contexts.tx]
  exact c.bind (alike.popElementOf _ _ rfl) fun found => c.pure found.2

private theorem popSpent : c.holds (vm.popSpent context) (vm'.popSpent context') :=
  c.bind (alike.popInput contexts) fun found => contexts.spentBy found.1

end

include alike

/-- Questions are answered alike where the numbers that answer them are pushed
alike. -/
theorem introspect (contexts : vm.context.Rel (ContextsAlike c) vm'.context)
    (enabled : vm.enables .nativeIntrospection = vm'.enables .nativeIntrospection)
    (answers : forall context number, vm.context = some context -> context.Answers number ->
      c.holds (vm.pushNumber number) (vm'.pushNumber number)) (question : Introspection) :
    c.holds (vm.introspect question) (vm'.introspect question) := by
  simp only [Interpreter.introspect, Sequencing.throw_bind]
  rw [enabled]
  refine c.ite (c.throw _ rfl) (demandContext_bind c contexts fun context context' own same => ?_)
  have answer {number : Int} (answered : context.Answers number) :=
    answers context number own answered
  cases question with
  | inputIndex => exact same.index ▸ answer .index
  | activeBytecode => exact c.look fun _ => alike.pushBounded _
  | txVersion => exact same.tx ▸ answer (.signedWord _)
  | txInputCount => exact same.tx ▸ answer .inputCount
  | txOutputCount => exact same.tx ▸ answer .outputCount
  | txLockTime => exact same.tx ▸ answer (.word _)
  | utxoValue =>
      exact c.sequence (alike.popSpent same) fun output yielded =>
        answer (.value output (mem_of_popSpent yielded))
  | utxoBytecode => exact c.bind (alike.popSpent same) fun _ => alike.pushBounded _
  | outpointTxHash => exact c.bind (alike.popInput same) fun _ => alike.push _
  | outpointIndex | inputSequence => exact c.bind (alike.popInput same) fun _ => answer (.word _)
  | inputBytecode => exact c.bind (alike.popInput same) fun _ => alike.pushBounded _
  | outputValue =>
      exact c.sequence (alike.popCreated same) fun output yielded =>
        answer (.value output (mem_of_popCreated yielded))
  | outputBytecode => exact c.bind (alike.popCreated same) fun _ => alike.pushBounded _

theorem introspectToken (contexts : vm.context.Rel (ContextsAlike c) vm'.context)
    (enabled : vm.enables .tokens = vm'.enables .tokens)
    (answers : forall context number, vm.context = some context -> context.Answers number ->
      c.holds (vm.pushNumber number) (vm'.pushNumber number))
    (side : TokenSide) (part : TokenPart) :
    c.holds (vm.introspectToken side part) (vm'.introspectToken side part) := by
  simp only [Interpreter.introspectToken, Sequencing.throw_bind]
  rw [enabled]
  refine c.ite (c.throw _ rfl) (demandContext_bind c contexts fun context context' own same => ?_)
  cases part with
  | category | commitment =>
      cases side with
      | spent => exact c.bind (alike.popSpent same) fun _ => alike.push _
      | created => exact c.bind (alike.popCreated same) fun _ => alike.push _
  | amount =>
      have answer {output : Output} (known : output ∈ context.outputs) :=
        answers context _ own (.amount output known)
      cases side with
      | spent =>
          exact c.sequence (alike.popSpent same) fun _ yielded =>
            answer (mem_of_popSpent yielded)
      | created =>
          exact c.sequence (alike.popCreated same) fun _ yielded =>
            answer (mem_of_popCreated yielded)

end WorksAlike

end Interpreter
end SpendRules

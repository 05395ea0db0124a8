import SpendRules.Proofs.Machine.SignatureChecks
import SpendRules.Proofs.Machine.Steps

namespace SpendRules

/-- The session with further elements below its stack. -/
def Session.atop (session : Session) (below : List Bytes) : Session :=
  { session with stack := session.stack ++ below }

/-!
# Scripts and what lies below their stack

A script that succeeds on a stack succeeds in the same way on further elements
below it, and leaves them alone.  Operations that reach into the stack find what
they reached for where it was, counted from the top.  Only the operation that
measures the stack can tell the difference, and so can the limit on the height
of the stack, which has to be raised.
-/

namespace Comparison

/-- Every success of the first step is a success of the second one above further
elements, with the same value, and leaves them alone. -/
def framing (below : List Bytes) : Comparison where
  below := below
  holds first second := forall machine value after, first machine = .ok value after ->
    second (machine.atop below) = .ok value (after.atop below)
  pure := by
    intro α given machine value after success
    rcases Sequencing.pure_eq_ok_iff.mp success with ⟨rfl, rfl⟩
    rfl
  fail _ _ _ _ _ _ _ success := (Sequencing.throw_ne_ok success).elim
  look frames machine value after success := frames machine machine value after success
  sequence := by
    intro α β first second next next' frames nextFrames machine value after success
    rcases Sequencing.bind_eq_ok_iff.mp success with ⟨found, middle, firstSuccess, nextSuccess⟩
    refine Sequencing.bind_eq_ok_iff.mpr ⟨found, middle.atop below, frames _ _ _ firstSuccess, ?_⟩
    exact nextFrames found ⟨machine, middle, firstSuccess⟩ _ _ _ nextSuccess

/-- A change that does the same above further elements. -/
theorem framing_modify {below : List Bytes} {change change' : Machine -> Machine}
    (commutes : forall machine, change' (machine.atop below) = (change machine).atop below) :
    (framing below).holds (modify change) (modify change') := by
  intro machine value after success
  rw [← Sequencing.modify_eq_ok_iff.mp success, ← commutes]
  rfl

end Comparison

namespace Interpreter

private theorem covers_framing (vm : Interpreter) (below : List Bytes) :
    Covers (Comparison.framing below) vm := by
  have changes : (Comparison.framing below).AdmitsChanges := by
    refine ⟨⟨⟨⟨fun _ => ?_, fun _ => ?_, fun _ => ?_⟩, fun _ => ?_⟩, fun _ => ?_⟩, fun _ => ?_,
      fun _ _ _ success => (Sequencing.throw_ne_ok success).elim⟩
    all_goals exact Comparison.framing_modify fun _ => rfl
  exact covers_of_metrics vm changes (fun _ => Comparison.framing_modify fun _ => rfl) fun _ =>
    Comparison.framing_modify fun _ => rfl

/-- The interpreter with another limit on the height of the stack. -/
def withMaxStackSize (vm : Interpreter) (maxStackSize : UInt64) : Interpreter :=
  { vm with limits := { vm.limits with maxStackSize := maxStackSize } }

/-! ## Instructions do not look at the height of the stack

The limit on the height is demanded after an instruction.  The instruction
itself is carried out in the same way under all such limits.
-/

section

variable (vm : Interpreter) (maxStackSize : UInt64)

-- Recursive steps are the same once their recursion is unfolded, since their bodies do not
-- look at the limit.
private theorem pushAll_withMaxStackSize :
    (vm.withMaxStackSize maxStackSize).pushAll = vm.pushAll := by
  delta pushAll
  rfl

private theorem matchKeys_withMaxStackSize :
    (vm.withMaxStackSize maxStackSize).matchKeys = vm.matchKeys := by
  delta matchKeys
  rfl

private theorem demandAll_withMaxStackSize :
    (vm.withMaxStackSize maxStackSize).demandAll = vm.demandAll := by
  delta demandAll
  rfl

private theorem rearrangeStacks_withMaxStackSize (operation : StackOperation) :
    (vm.withMaxStackSize maxStackSize).rearrangeStacks operation =
      vm.rearrangeStacks operation := by
  cases operation with
  | toAltStack | fromAltStack | dropTwo | swapTwo | depth | drop | nip | pick | roll | rot | swap
  | tuck => rfl
  | _ => simp only [rearrangeStacks, pushCopies, pushAll_withMaxStackSize]

private theorem checkMultiSig_withMaxStackSize (required : Bool) :
    (vm.withMaxStackSize maxStackSize).checkMultiSig required = vm.checkMultiSig required := by
  have matching : (vm.withMaxStackSize maxStackSize).checkMultiSigByMatching =
      vm.checkMultiSigByMatching := by
    unfold checkMultiSigByMatching
    rw [matchKeys_withMaxStackSize]
    rfl
  have selection : (vm.withMaxStackSize maxStackSize).checkMultiSigBySelection =
      vm.checkMultiSigBySelection := by
    unfold checkMultiSigBySelection
    rw [demandAll_withMaxStackSize]
  unfold checkMultiSig
  rw [matching, selection]
  rfl

private theorem carryOut_withMaxStackSize :
    (vm.withMaxStackSize maxStackSize).carryOut = vm.carryOut := by
  have perform : (vm.withMaxStackSize maxStackSize).perform = vm.perform := by
    funext operation executing next
    cases operation with
    | stack operation => exact rearrangeStacks_withMaxStackSize vm maxStackSize operation
    | checkMultiSig required => exact checkMultiSig_withMaxStackSize vm maxStackSize required
    | _ => rfl
  unfold carryOut
  rw [perform]
  rfl

end

variable {vm : Interpreter} {below : List Bytes} {maxStackSize : UInt64}
  (room : maxStackSize.toNat = vm.limits.maxStackSize.toNat + below.length)
    {machine after : Machine}

include room

/-- The limit is raised by as much as lies below. -/
private theorem withinLimits_atop (within : vm.WithinLimits machine) :
    (vm.withMaxStackSize maxStackSize).WithinLimits (machine.atop below) := by
  refine ⟨?_, within.opCost⟩
  have stackSize := within.stackSize
  change (machine.stack ++ below).length + machine.altStack.length ≤ maxStackSize.toNat
  rw [List.length_append, room]
  omega

private theorem step_atop {instruction : Instruction} {next : Nat}
    (unmeasured : Opcode.operation instruction.opcode ≠ .stack .depth)
    (stepped : vm.step instruction next machine = .ok () after) :
    (vm.withMaxStackSize maxStackSize).step instruction next (machine.atop below) =
      .ok () (after.atop below) := by
  have covers := covers_framing vm below
  rcases step_eq_ok_iff.mp stepped with ⟨permitted, permits, carried, within⟩
  have permitsAtop := covers.permit covers.allChanges.toAdmitsCounting instruction _ _ _ permits
  have carriedAtop :=
    covers.carryOut instruction next (Or.inr unmeasured) (covers.checks instruction) _ _ _ carried
  rw [← carryOut_withMaxStackSize vm maxStackSize] at carriedAtop
  exact step_eq_ok_iff.mpr
    ⟨permitted.atop below, permitsAtop, carriedAtop, withinLimits_atop room within⟩

private theorem runFrom_atop {start : Nat} {instructions : List Instruction}
    (unmeasured : forall instruction, instruction ∈ instructions ->
      Opcode.operation instruction.opcode ≠ .stack .depth)
    (ran : vm.runFrom start instructions machine = .ok () after) :
    (vm.withMaxStackSize maxStackSize).runFrom start instructions (machine.atop below) =
      .ok () (after.atop below) := by
  induction instructions generalizing start machine with
  | nil =>
      rw [← (Sequencing.pure_eq_ok_iff.mp ran).2]
      rfl
  | cons first rest inductionHypothesis =>
      rcases Sequencing.bind_eq_ok_iff.mp ran with ⟨_, middle, stepped, remaining⟩
      have steppedAtop := step_atop room (unmeasured first List.mem_cons_self) stepped
      refine Sequencing.bind_eq_ok_iff.mpr
        ⟨(), middle.atop below, steppedAtop, inductionHypothesis ?_ remaining⟩
      intro instruction member
      exact unmeasured instruction (List.mem_cons_of_mem first member)

end Interpreter

/-- A script that does not measure the stack does the same above further
elements, with a limit on the stack that leaves room for them. -/
theorem Interpreter.evaluate_atop (vm : Interpreter) (script : Script) (session after : Session)
    (below : List Bytes) (maxStackSize : UInt64)
    (room : maxStackSize.toNat = vm.limits.maxStackSize.toNat + below.length)
    (unmeasured : forall instruction, instruction ∈ script.instructions ->
      Opcode.operation instruction.opcode ≠ .stack .depth)
    (evaluated : vm.evaluate script session = .ok () after) :
    (vm.withMaxStackSize maxStackSize).evaluate script (session.atop below) =
      .ok () (after.atop below) := by
  rcases evaluate_eq_ok_iff.mp evaluated with ⟨short, machine, ran, rfl⟩
  rcases run_eq_ok_iff.mp ran with ⟨ran, wellFormed, closed⟩
  refine evaluate_eq_ok_iff.mpr ⟨short, machine.atop below, ?_, rfl⟩
  exact run_eq_ok_iff.mpr ⟨runFrom_atop room unmeasured ran, wellFormed, closed⟩

/-- An interpreter without rules, whose verifier refuses every signature. -/
private def plainInterpreter : Interpreter where
  rules := .empty
  verifier _ := .ok false

/-- A script that rolls the third element to the top. -/
private def rollThird : Script where
  bytes := [0x52, 0x7a]

/-- The third element is rolled to the top, whether or not a fourth one lies
below. -/
theorem Interpreter.evaluate_atop_rollThird :
    plainInterpreter.evaluate rollThird { stack := [[3], [2], [1]] } =
        .ok () { stack := [[1], [3], [2]] } ∧
      (plainInterpreter.withMaxStackSize 1001).evaluate rollThird
        (Session.atop { stack := [[3], [2], [1]] } [[0]]) =
        .ok () { stack := [[1], [3], [2], [0]] } := by
  have evaluated : plainInterpreter.evaluate rollThird { stack := [[3], [2], [1]] } =
      .ok () { stack := [[1], [3], [2]] } := by
    have instructions : rollThird.instructions = [⟨0x52, [], none⟩, ⟨0x7a, [], none⟩] := by
      decide +kernel
    have ran : plainInterpreter.runFrom 0 rollThird.instructions
        { stack := [[3], [2], [1]], script := rollThird } =
        .ok () { stack := [[1], [3], [2]], script := rollThird, opCount := 1 } := by
      rw [instructions]
      rfl
    exact evaluate_eq_ok_iff.mpr
      ⟨by decide, _, run_eq_ok_iff.mpr ⟨ran, by decide +kernel, rfl⟩, rfl⟩
  have unmeasured : forall instruction, instruction ∈ rollThird.instructions ->
      Opcode.operation instruction.opcode ≠ .stack .depth := by decide +kernel
  exact ⟨evaluated, evaluate_atop plainInterpreter rollThird _ _ [[0]] 1001 (by decide)
    unmeasured evaluated⟩

end SpendRules

import SpendRules.Machine.Evaluation
import SpendRules.Proofs.Machine.Comparison

namespace SpendRules

/-- The operation does not push a number. -/
def StackOperation.isPlain : StackOperation -> Bool
  | .depth => false
  | _ => true

/-- The operation neither pushes a number nor depends on how long numbers may
be. -/
def SpliceOperation.isPlain : SpliceOperation -> Bool
  | .binToNum | .size => false
  | _ => true

/-- The operation changes which branches are open, or which part of the script is
signed. -/
def Operation.isControl : Operation -> Bool
  | .openBranch _ | .elseBranch | .closeBranch | .codeSeparator => true
  | _ => false

/-- The operation works on the stacks only.  It pushes no number that it computes,
and it looks at nothing but the machine and the limits. -/
def Operation.isPlain : Operation -> Bool
  | .stack operation => operation.isPlain
  | .splice operation => operation.isPlain
  | .noOperation | .verify | .halt | .bitwise _ | .equal _ | .within | .hash _ | .pushData
  | .reservedBranch | .disabled | .invalid => true
  | _ => false

namespace Interpreter

/-!
# Work under two interpreters

Two interpreters with the same limits do most of their work in the same way.
As long as they charge alike and read operands alike, a comparison holds for
every operation on the stacks.  If they also bound results alike, it holds for
operations on numbers.  Operations on branches and on the start of the code are
apart from these, since a comparison may be about what they change.  There is one
case for each operation, and it follows the steps of the operation.

Taking one interpreter twice makes this a statement about a single run.
-/

/-- The interpreters have the same limits and hash functions, and meter work or
not together. -/
structure Alike (vm vm' : Interpreter) : Prop where
  limits : vm.limits = vm'.limits
  hashes : vm.hashes = vm'.hashes
  isMetered : vm.isMetered = vm'.isMetered
  unlockingLength : vm.unlockingLength = vm'.unlockingLength

namespace Alike

variable {vm vm' : Interpreter} (alike : Alike vm vm')

include alike

theorem maxElementSize : vm.maxElementSize = vm'.maxElementSize := by
  unfold Interpreter.maxElementSize
  rw [alike.isMetered, alike.limits]

theorem hashIterationLimit : vm.hashIterationLimit = vm'.hashIterationLimit := by
  unfold Interpreter.hashIterationLimit
  rw [alike.unlockingLength]

theorem opCostBudget : vm.opCostBudget = vm'.opCostBudget := by
  unfold Interpreter.opCostBudget
  rw [alike.unlockingLength]

theorem charge (cost : Nat) : vm.charge cost = vm'.charge cost := by
  unfold Interpreter.charge
  rw [alike.isMetered]

theorem chargeHash (length : Nat) (twofold : Bool) :
    vm.chargeHash length twofold = vm'.chargeHash length twofold := by
  unfold Interpreter.chargeHash
  rw [alike.isMetered, alike.hashIterationLimit]
  dsimp only
  rw [alike.charge]

theorem countSigChecks (count : Nat) : vm.countSigChecks count = vm'.countSigChecks count := by
  unfold Interpreter.countSigChecks
  rw [alike.charge]

end Alike

/-- A comparison holds between equal changes of the machine, between the
charges of the interpreters for their work, and between the ways in which they
read an operand. -/
structure WorksAlike (c : Comparison) (vm vm' : Interpreter) : Prop extends Alike vm vm' where
  changes : c.AdmitsStackChanges
  charge : forall cost, c.holds (vm.charge cost) (vm'.charge cost)
  chargeHash : forall length twofold,
    c.holds (vm.chargeHash length twofold) (vm'.chargeHash length twofold)
  operand : forall element, c.holds (vm.operand element) (vm'.operand element)

private theorem elseBranch_holds {c : Comparison} (changes : c.AdmitsBranchChanges) :
    c.holds elseBranch elseBranch := by
  refine c.look fun machine => ?_
  rw [Machine.branches_atop]
  cases machine.branches with
  | nil => exact c.throw _ rfl
  | cons taken rest => exact changes.branches fun _ => (!taken) :: rest

private theorem closeBranch_holds {c : Comparison} (changes : c.AdmitsBranchChanges) :
    c.holds closeBranch closeBranch := by
  refine c.look fun machine => ?_
  rw [Machine.branches_atop]
  cases machine.branches with
  | nil => exact c.throw _ rfl
  | cons _ rest => exact changes.branches fun _ => rest

namespace WorksAlike

variable {c : Comparison} {vm vm' : Interpreter}

/-- Where a comparison holds between every step and itself, only operands can
differ. -/
theorem of_refl (bare : c.below = []) (alike : Alike vm vm')
    (refl : forall step : Step Unit, c.holds step step)
    (operand : forall element, c.holds (vm.operand element) (vm'.operand element)) :
    WorksAlike c vm vm' where
  toAlike := alike
  changes := (Comparison.AdmitsChanges.of_refl bare refl).toAdmitsStackChanges
  charge cost := by
    rw [alike.charge]
    exact refl _
  chargeHash length twofold := by
    rw [alike.chargeHash]
    exact refl _
  operand := operand

variable (alike : WorksAlike c vm vm')

include alike

/-! ## Pushing and popping -/

theorem push (element : Bytes) : c.holds (vm.push element) (vm'.push element) :=
  c.bind (alike.charge element.length) fun _ => alike.changes.push element

theorem pushAll (elements : List Bytes) : c.holds (vm.pushAll elements) (vm'.pushAll elements) := by
  induction elements with
  | nil => exact c.unit
  | cons element elements inductionHypothesis =>
      exact c.bind (alike.push element) fun _ => inductionHypothesis

theorem pushBounded (element : Bytes) :
    c.holds (vm.pushBounded element) (vm'.pushBounded element) := by
  simp only [Interpreter.pushBounded, Sequencing.throw_bind]
  rw [alike.maxElementSize]
  exact c.ite (c.throw _ rfl) (alike.push element)

theorem pushBool (condition : Bool) : c.holds (vm.pushBool condition) (vm'.pushBool condition) :=
  alike.push _

theorem popNumber : c.holds vm.popNumber vm'.popNumber :=
  c.bind alike.changes.pop fun element => alike.operand element

theorem popIndex : c.holds vm.popIndex vm'.popIndex :=
  c.bind alike.popNumber fun number => c.pure (ScriptNumber.clamp number)

/-! ## Operations on the stacks -/

/-- Copies of what is on top are chosen regardless of what lies below. -/
theorem pushCopies {choose : List Bytes -> Option (List Bytes)}
    (onTop : forall stack copies below, choose stack = some copies ->
      choose (stack ++ below) = some copies) :
    c.holds (vm.pushCopies choose) (vm'.pushCopies choose) := by
  refine c.lookStack .invalidStackOperation rfl fun stack => ?_
  cases chosen : choose stack with
  | none => exact Or.inl ⟨rfl, rfl⟩
  | some copies =>
      right
      rw [onTop stack copies c.below chosen]
      exact alike.pushAll copies

theorem pushFromDepth (moves : Bool) :
    c.holds (vm.pushFromDepth moves) (vm'.pushFromDepth moves) := by
  simp only [Interpreter.pushFromDepth, Sequencing.throw_bind]
  refine c.bind (c.require 2) fun _ => c.bind alike.popIndex fun depth => ?_
  refine c.lookStack .invalidStackOperation rfl fun stack => ?_
  by_cases negative : depth < 0
  · exact Or.inl ⟨if_pos negative, if_pos negative⟩
  rw [if_neg negative, if_neg negative, if_neg negative]
  cases found : stack[depth.toNat]? with
  | none => exact Or.inl ⟨rfl, rfl⟩
  | some element =>
      right
      have bound := (List.getElem?_eq_some_iff.mp found).1
      rw [List.getElem?_append_left bound, found, List.eraseIdx_append_of_lt_length bound]
      exact c.ite (c.bind (alike.changes.setStack _) fun _ => alike.push element)
        (alike.push element)

private theorem rearrangeStacks (operation : StackOperation) (plain : operation.isPlain = true) :
    c.holds (vm.rearrangeStacks operation) (vm'.rearrangeStacks operation) := by
  cases operation with
  | toAltStack =>
      exact c.bind alike.changes.pop fun element => alike.changes.altStack fun stack =>
        element :: stack
  | fromAltStack =>
      refine c.look fun machine => ?_
      rw [Machine.altStack_atop]
      cases machine.altStack with
      | nil => exact c.throw _ rfl
      | cons element rest =>
          exact c.bind (alike.changes.altStack fun _ => rest) fun _ => alike.push element
  | rotTwo =>
      refine c.lookStack .invalidStackOperation rfl fun stack => ?_
      rcases stack with _ | ⟨f, _ | ⟨e, _ | ⟨d, _ | ⟨c', _ | ⟨b, _ | ⟨a, rest⟩⟩⟩⟩⟩⟩
      case cons.cons.cons.cons.cons.cons =>
        exact Or.inr (c.bind (alike.changes.setStack (f :: e :: d :: c' :: rest))
          fun _ => alike.pushAll [a, b])
      all_goals exact Or.inl ⟨rfl, rfl⟩
  | depth => cases plain
  | drop => exact c.bind alike.changes.pop fun _ => c.unit
  | tuck =>
      refine c.lookStack .invalidStackOperation rfl fun stack => ?_
      rcases stack with _ | ⟨b, _ | ⟨a, rest⟩⟩
      · exact Or.inl ⟨rfl, rfl⟩
      · exact Or.inl ⟨rfl, rfl⟩
      · exact Or.inr (c.bind (alike.charge b.length)
          fun _ => alike.changes.setStack (b :: a :: b :: rest))
  | pick => exact alike.pushFromDepth false
  | roll => exact alike.pushFromDepth true
  | dropTwo | swapTwo | nip | rot | swap =>
      refine alike.changes.rearrange fun stack changed below rearranged => ?_
      split at rearranged
      · cases rearranged
        rfl
      · cases rearranged
  -- All others push copies of elements.
  | _ =>
      refine alike.pushCopies fun stack copies below chosen => ?_
      split at chosen
      · exact chosen
      · cases chosen

private theorem splice (operation : SpliceOperation) (plain : operation.isPlain = true) :
    c.holds (vm.splice operation) (vm'.splice operation) := by
  cases operation with
  | cat =>
      refine c.lookStack .invalidStackOperation rfl fun stack => ?_
      rcases stack with _ | ⟨b, _ | ⟨a, rest⟩⟩
      · exact Or.inl ⟨rfl, rfl⟩
      · exact Or.inl ⟨rfl, rfl⟩
      · right
        dsimp only [List.cons_append]
        rw [alike.maxElementSize]
        exact c.ite (c.throw _ rfl)
          (c.bind (alike.changes.setStack rest) fun _ => alike.push (a ++ b))
  | split =>
      change c.holds vm.split vm'.split
      simp only [Interpreter.split, Sequencing.throw_bind]
      refine c.bind (c.require 2) fun _ => c.bind alike.popIndex fun position =>
        c.bind alike.changes.pop fun element => c.ite (c.throw _ rfl) ?_
      exact c.bind (alike.push _) fun _ => alike.push _
  | numToBin =>
      change c.holds vm.numToBin vm'.numToBin
      simp only [Interpreter.numToBin, Sequencing.throw_bind]
      rw [alike.maxElementSize]
      refine c.bind (c.require 2) fun _ => c.bind alike.popIndex fun size =>
        c.ite (c.throw _ rfl) ?_
      exact c.bind alike.changes.pop fun element => c.ite (c.throw _ rfl) (alike.push _)
  | binToNum | size => cases plain
  | reverseBytes => exact c.bind alike.changes.pop fun element => alike.push element.reverse

private theorem bitwise (operation : BitwiseOperation) :
    c.holds (vm.bitwise operation) (vm'.bitwise operation) := by
  refine c.lookStack .invalidStackOperation rfl fun stack => ?_
  rcases stack with _ | ⟨b, _ | ⟨a, rest⟩⟩
  · exact Or.inl ⟨rfl, rfl⟩
  · exact Or.inl ⟨rfl, rfl⟩
  · exact Or.inr (c.ite (c.throw _ rfl)
      (c.bind (alike.changes.setStack rest) fun _ => alike.push _))

private theorem equal (required : Bool) : c.holds (vm.equal required) (vm'.equal required) := by
  refine c.lookStack .invalidStackOperation rfl fun stack => ?_
  rcases stack with _ | ⟨b, _ | ⟨a, rest⟩⟩
  · exact Or.inl ⟨rfl, rfl⟩
  · exact Or.inl ⟨rfl, rfl⟩
  · exact Or.inr (c.bind (alike.changes.setStack rest) fun _ => c.bind (alike.pushBool _) fun _ =>
      alike.changes.verifyTopIf required _ rfl)

private theorem within : c.holds vm.within vm'.within :=
  c.bind (c.require 3) fun _ => c.bind alike.popNumber fun _ => c.bind alike.popNumber fun _ =>
    c.bind alike.popNumber fun _ => alike.pushBool _

private theorem hash (algorithm : Hash.Algorithm) :
    c.holds (vm.hash algorithm) (vm'.hash algorithm) := by
  unfold Interpreter.hash
  rw [alike.hashes]
  exact c.bind alike.changes.pop fun _ => c.bind (alike.chargeHash _ _) fun _ => alike.push _

/-- The comparison holds for every operation, provided that it holds for those
that are not plain. -/
theorem perform (operation : Operation) (executing : Bool) (next : Nat)
    (others : operation.isPlain = false ->
      c.holds (vm.perform operation executing next) (vm'.perform operation executing next)) :
    c.holds (vm.perform operation executing next) (vm'.perform operation executing next) := by
  cases plain : operation.isPlain with
  | false => exact others plain
  | true =>
      cases operation with
      | noOperation => exact c.unit
      | verify => exact alike.changes.verifyTop .verify rfl
      | stack operation => exact alike.rearrangeStacks operation plain
      | splice operation => exact alike.splice operation plain
      | bitwise operation => exact alike.bitwise operation
      | equal required => exact alike.equal required
      | within => exact alike.within
      | hash algorithm => exact alike.hash algorithm
      | halt | pushData | reservedBranch | disabled | invalid => exact c.throw _ rfl
      | _ => cases plain

/-! ## Operations on branches and on the start of the code -/

private theorem openBranch (changes : c.AdmitsBranchChanges) (negated executing : Bool) :
    c.holds (vm.openBranch negated executing) (vm'.openBranch negated executing) := by
  have enter (taken : Bool) : c.holds
      (do modify fun machine => { machine with branches := taken :: machine.branches }
          if vm.isMetered &&
            decide ((<- get).branches.length > vm.limits.maxConditionalDepth.toNat) then
            throw .conditionalStackDepth)
      (do modify fun machine => { machine with branches := taken :: machine.branches }
          if vm'.isMetered &&
            decide ((<- get).branches.length > vm'.limits.maxConditionalDepth.toNat) then
            throw .conditionalStackDepth) := by
    rw [alike.isMetered, alike.limits]
    exact c.bind (changes.branches fun branches => taken :: branches) fun _ =>
      c.look fun _ => c.ite (c.throw _ rfl) c.unit
  refine c.ite ?_ (enter false)
  refine c.lookStack .unbalancedConditional rfl fun stack => ?_
  cases stack with
  | nil => exact Or.inl ⟨rfl, rfl⟩
  | cons condition rest => exact Or.inr (c.bind (alike.changes.setStack rest) fun _ => enter _)

theorem branching (changes : c.AdmitsBranchChanges) {operation : Operation}
    (concerns : operation.concernsBranches = true) (executing : Bool) (next : Nat) :
    c.holds (vm.perform operation executing next) (vm'.perform operation executing next) := by
  cases operation with
  | openBranch negated => exact alike.openBranch changes negated executing
  | elseBranch => exact elseBranch_holds changes
  | closeBranch => exact closeBranch_holds changes
  | reservedBranch => exact c.throw _ rfl
  | _ => cases concerns

/-- A comparison that admits these changes holds for these operations too. -/
theorem control (changes : c.AdmitsControlChanges) {operation : Operation}
    (isControl : operation.isControl = true) (executing : Bool) (next : Nat) :
    c.holds (vm.perform operation executing next) (vm'.perform operation executing next) := by
  cases operation with
  | openBranch _ | elseBranch | closeBranch =>
      exact alike.branching changes.toAdmitsBranchChanges rfl executing next
  | codeSeparator => exact changes.codeStart next
  | _ => cases isControl

/-! ## Numbers -/

/-- Operands are read alike, so that only the results are left to compare. -/
theorem unary (operation : UnaryOperation)
    (results : forall number, vm.popNumber.Yields number ->
      c.holds (vm.pushNumber (unaryResult operation number))
        (vm'.pushNumber (unaryResult operation number))) :
    c.holds (vm.unary operation) (vm'.unary operation) :=
  c.sequence alike.popNumber results

theorem binary (operation : BinaryOperation)
    (results : forall a b result, vm.popNumber.Yields a -> vm.popNumber.Yields b ->
      binaryResult operation a b = .ok result ->
      c.holds (vm.pushNumber result) (vm'.pushNumber result)) :
    c.holds (vm.binary operation) (vm'.binary operation) := by
  have compute : c.holds
      (do let b <- vm.popNumber
          let a <- vm.popNumber
          let result <- Step.ofExcept (binaryResult operation a b)
          vm.pushNumber result)
      (do let b <- vm'.popNumber
          let a <- vm'.popNumber
          let result <- Step.ofExcept (binaryResult operation a b)
          vm'.pushNumber result) := by
    refine c.sequence alike.popNumber fun b second => c.sequence alike.popNumber fun a first => ?_
    refine c.sequence (c.ofExcept (stopsSteps_binaryResult operation a b)) fun result yielded =>
      results a b result first second ?_
    exact Step.yields_ofExcept_iff.mp yielded
  refine c.bind (c.require 2) fun _ => c.ite ?_ compute
  exact c.bind (c.elementAt 0) fun b => c.bind (c.elementAt 1) fun a =>
    c.bind (alike.charge _) fun _ => compute

theorem numEqualVerify (equal : c.holds (vm.binary .numEqual) (vm'.binary .numEqual)) :
    c.holds vm.numEqualVerify vm'.numEqualVerify :=
  c.bind equal fun _ => alike.changes.verifyTop .numEqualVerify rfl

end WorksAlike

/-- The interpreters also bound operands and results alike. -/
structure ComputesAlike (c : Comparison) (vm vm' : Interpreter) :
    Prop extends WorksAlike c vm vm' where
  integers64 : vm.enables .integers64 = vm'.enables .integers64

namespace ComputesAlike

variable {c : Comparison} {vm vm' : Interpreter} (alike : ComputesAlike c vm vm')

include alike

private theorem numberBounds : vm.numberBounds = vm'.numberBounds := by
  unfold Interpreter.numberBounds
  rw [alike.isMetered, alike.integers64, alike.limits]

theorem isDisabled (opcode : UInt8) : vm.isDisabled opcode = vm'.isDisabled opcode := by
  unfold Interpreter.isDisabled
  rw [alike.isMetered, alike.integers64]

theorem pushNumber (number : Int) : c.holds (vm.pushNumber number) (vm'.pushNumber number) := by
  unfold Interpreter.pushNumber
  rw [alike.numberBounds]
  exact c.bind (c.ofExcept (ScriptNumber.stopsSteps_checkResult _ number)) fun number =>
    alike.push (ScriptNumber.encode number)

/-- The depth of the stack is the same only if nothing lies below. -/
theorem depth (bare : c.below = []) :
    c.holds (vm.rearrangeStacks .depth) (vm'.rearrangeStacks .depth) := by
  refine c.lookStack .invalidStackOperation rfl fun stack => ?_
  right
  rw [bare, List.append_nil]
  exact alike.pushNumber stack.length

theorem binToNum : c.holds vm.binToNum vm'.binToNum := by
  simp only [Interpreter.binToNum, Sequencing.throw_bind]
  rw [alike.numberBounds]
  exact c.bind alike.changes.pop fun element => c.ite (c.throw _ rfl) (alike.push _)

theorem size : c.holds (vm.splice .size) (vm'.splice .size) :=
  c.bind (c.elementAt 0) fun element => alike.pushNumber element.length

theorem unary (operation : UnaryOperation) : c.holds (vm.unary operation) (vm'.unary operation) :=
  alike.toWorksAlike.unary operation fun _ _ => alike.pushNumber _

theorem binary (operation : BinaryOperation) :
    c.holds (vm.binary operation) (vm'.binary operation) :=
  alike.toWorksAlike.binary operation fun _ _ _ _ _ _ => alike.pushNumber _

end ComputesAlike

end Interpreter
end SpendRules

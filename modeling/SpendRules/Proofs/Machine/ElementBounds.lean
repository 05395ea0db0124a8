import SpendRules.Proofs.Machine.Arithmetic
import SpendRules.Proofs.Machine.SignatureChecks
import SpendRules.Proofs.Machine.Steps

namespace SpendRules

/-- No element is longer than the limit. -/
def ElementsWithin (limit : Nat) (elements : List Bytes) : Prop :=
  forall element, element ∈ elements -> element.length ≤ limit

namespace ElementsWithin

variable {limit : Nat} {element : Bytes} {elements chosen : List Bytes}

theorem nil : ElementsWithin limit [] :=
  nofun

theorem cons_iff :
    ElementsWithin limit (element :: elements) ↔
      element.length ≤ limit ∧ ElementsWithin limit elements :=
  List.forall_mem_cons

theorem of_subset (within : ElementsWithin limit elements) (subset : chosen ⊆ elements) :
    ElementsWithin limit chosen :=
  fun element member => within element (subset member)

end ElementsWithin

/-- No element of either stack is longer than the limit. -/
structure Machine.IsBounded (limit : Nat) (machine : Machine) : Prop where
  stack : ElementsWithin limit machine.stack
  altStack : ElementsWithin limit machine.altStack

/-- Both stacks. -/
def Machine.stacks (machine : Machine) : List Bytes × List Bytes :=
  (machine.stack, machine.altStack)

/-!
# Steps that keep elements short

Elements are bounded on the way from one instruction to the next, since every
operation bounds what it pushes.  Copies and parts of elements are no longer
than the elements themselves; where elements are joined or filled up, the limit
is checked; and numbers, hashes and tokens are short enough by their nature.

What an operation pushes depends on what it popped.  So a step is described by
two things: it keeps the elements of both stacks within the limit, and its value
has some property.  The rules below follow the ways in which steps are put
together.
-/

/-- From a machine with elements within the limit, every success of the step
leaves such a machine, and gives a value with the property. -/
def Step.Bounds {α : Type} (limit : Nat) (property : α -> Prop) (step : Step α) : Prop :=
  forall machine value after, machine.IsBounded limit -> step machine = .ok value after ->
    after.IsBounded limit ∧ property value

namespace Step.Bounds

variable {α β : Type} {limit : Nat} {property : α -> Prop} {result : β -> Prop} {step : Step α}

/-- What comes second has to keep the bounds only for values with the property
that the first step gives them. -/
theorem bind {next : α -> Step β} (first : Step.Bounds limit property step)
    (nextBounds : forall value, property value -> Step.Bounds limit result (next value)) :
    Step.Bounds limit result (step >>= next) := by
  intro machine value after bounded success
  rcases Sequencing.bind_eq_ok_iff.mp success with ⟨found, middle, firstSuccess, nextSuccess⟩
  rcases first machine found middle bounded firstSuccess with ⟨stillBounded, holds⟩
  exact nextBounds found holds middle value after stillBounded nextSuccess

/-- A step that keeps the bounds gives no other values than it can. -/
theorem of_yields (bounds : Step.Bounds limit (fun _ => True) step)
    (holds : forall value, step.Yields value -> property value) : Step.Bounds limit property step :=
  fun machine value after bounded success =>
    ⟨(bounds machine value after bounded success).1, holds value ⟨machine, after, success⟩⟩

theorem look {next : Machine -> Step α}
    (bounds : forall machine, machine.IsBounded limit ->
      Step.Bounds limit property (next machine)) :
    Step.Bounds limit property (get >>= next) :=
  fun machine value after bounded success =>
    bounds machine bounded machine value after bounded success

theorem lookStack {next : List Bytes -> Step α}
    (bounds : forall stack, ElementsWithin limit stack -> Step.Bounds limit property (next stack)) :
    Step.Bounds limit property (Step.stack >>= next) :=
  fun machine value after bounded success =>
    bounds machine.stack bounded.stack machine value after bounded success

theorem throw (failure : ScriptError) :
    Step.Bounds limit property (MonadExcept.throw failure : Step α) :=
  fun _ _ _ _ success => (Sequencing.throw_ne_ok success).elim

theorem pure {value : α} (holds : property value) :
    Step.Bounds limit property (Pure.pure value : Step α) := by
  intro machine found after bounded success
  rcases Sequencing.pure_eq_ok_iff.mp success with ⟨rfl, rfl⟩
  exact ⟨bounded, holds⟩

theorem unit : Step.Bounds limit (fun _ => True) (Pure.pure () : Step Unit) :=
  .pure trivial

theorem ite {condition : Prop} [Decidable condition] {other : Step α}
    (taken : condition -> Step.Bounds limit property step)
    (passed : ¬ condition -> Step.Bounds limit property other) :
    Step.Bounds limit property (if condition then step else other) := by
  by_cases holds : condition
  · rw [if_pos holds]
    exact taken holds
  · rw [if_neg holds]
    exact passed holds

/-- A refusal before the rest of a step. -/
theorem refuse {condition : Prop} [Decidable condition] {failure : ScriptError}
    (passed : ¬ condition -> Step.Bounds limit property step) :
    Step.Bounds limit property (if condition then MonadExcept.throw failure else step) :=
  .ite (fun _ => .throw failure) passed

theorem ofExcept {computed : Except ScriptError α}
    (holds : forall value, computed = .ok value -> property value) :
    Step.Bounds limit property (Step.ofExcept computed) := by
  cases computed with
  | ok value => exact .pure (holds value rfl)
  | error failure => exact .throw failure

theorem modify {change : Machine -> Machine}
    (keeps : forall machine, machine.IsBounded limit -> (change machine).IsBounded limit) :
    Step.Bounds limit (fun _ => True) (modify change) := by
  intro machine value after bounded success
  rw [← Sequencing.modify_eq_ok_iff.mp success]
  exact ⟨keeps machine bounded, trivial⟩

/-- A step that leaves both stacks alone. -/
theorem of_keeping {second : Step α}
    (keeps : (Comparison.keeping Machine.stacks).holds step second) :
    Step.Bounds limit (fun _ => True) step := by
  intro machine value after bounded success
  rcases Prod.mk.inj (keeps machine value after success) with ⟨stack, altStack⟩
  exact ⟨⟨stack ▸ bounded.stack, altStack ▸ bounded.altStack⟩, trivial⟩

end Step.Bounds

/-! ## Parts of operations -/

namespace Step

variable {limit : Nat}

theorem ofExcept_bounds {α : Type} {computed : Except ScriptError α} :
    Bounds limit (fun _ => True) (ofExcept computed) :=
  .ofExcept fun _ _ => trivial

theorem setStack_bounds {stack : List Bytes} (within : ElementsWithin limit stack) :
    Bounds limit (fun _ => True) (setStack stack) :=
  .modify fun _ bounded => ⟨within, bounded.altStack⟩

theorem pop_bounds : Bounds limit (fun element => element.length ≤ limit) pop := by
  refine .lookStack fun stack within => ?_
  cases stack with
  | nil => exact .throw _
  | cons top rest =>
      rcases ElementsWithin.cons_iff.mp within with ⟨short, restWithin⟩
      exact (setStack_bounds restWithin).bind fun _ _ => .pure short

theorem require_bounds (count : Nat) : Bounds limit (fun _ => True) (require count) :=
  .lookStack fun _ _ => .refuse fun _ => .unit

theorem elementAt_bounds (index : Nat) :
    Bounds limit (fun element => element.length ≤ limit) (elementAt index) := by
  refine .lookStack fun stack within => ?_
  cases found : stack[index]? with
  | none => exact .throw _
  | some element => exact .pure (within element (List.mem_of_getElem? found))

/-- A rearrangement brings in no new elements. -/
theorem rearrange_bounds {change : List Bytes -> Option (List Bytes)}
    (moves : forall stack changed, change stack = some changed -> changed ⊆ stack) :
    Bounds limit (fun _ => True) (rearrange change) := by
  refine .lookStack fun stack within => ?_
  cases rearranged : change stack with
  | none => exact .throw _
  | some changed => exact setStack_bounds (within.of_subset (moves stack changed rearranged))

theorem verifyTop_bounds (failure : ScriptError) :
    Bounds limit (fun _ => True) (verifyTop failure) :=
  (elementAt_bounds 0).bind fun _ _ => .ite (fun _ => pop_bounds.bind fun _ _ => .unit) fun _ =>
    .throw failure

theorem verifyTopIf_bounds (required : Bool) (failure : ScriptError) :
    Bounds limit (fun _ => True) (verifyTopIf required failure) :=
  .ite (fun _ => verifyTop_bounds failure) fun _ => .unit

theorem modify_branches_bounds (change : List Bool -> List Bool) :
    Bounds limit (fun _ => True)
      (modify fun machine : Machine => { machine with branches := change machine.branches }) :=
  .modify fun _ bounded => ⟨bounded.stack, bounded.altStack⟩

end Step

namespace Interpreter

private theorem charge_keeps_stacks (vm : Interpreter) (cost : Nat) :
    (Comparison.keeping Machine.stacks).holds (vm.charge cost) (vm.charge cost) := by
  intro machine _ after charged
  rw [← charge_eq_ok_iff.mp charged]
  rfl

theorem chargeHash_keeps_stacks (vm : Interpreter) (length : Nat) (twofold : Bool) :
    (Comparison.keeping Machine.stacks).holds (vm.chargeHash length twofold)
      (vm.chargeHash length twofold) := by
  intro machine _ after charged
  rw [← (chargeHash_eq_ok_iff.mp charged).1]
  rfl

variable {vm : Interpreter}

theorem charge_bounds {limit : Nat} (cost : Nat) :
    Step.Bounds limit (fun _ => True) (vm.charge cost) :=
  .of_keeping (charge_keeps_stacks vm cost)

theorem chargeHash_bounds {limit : Nat} (length : Nat) (twofold : Bool) :
    Step.Bounds limit (fun _ => True) (vm.chargeHash length twofold) :=
  .of_keeping (chargeHash_keeps_stacks vm length twofold)

theorem push_bounds {limit : Nat} {element : Bytes} (short : element.length ≤ limit) :
    Step.Bounds limit (fun _ => True) (vm.push element) :=
  (charge_bounds element.length).bind fun _ _ =>
    .modify fun _ bounded => ⟨ElementsWithin.cons_iff.mpr ⟨short, bounded.stack⟩, bounded.altStack⟩

theorem pushAll_bounds {limit : Nat} {elements : List Bytes}
    (within : ElementsWithin limit elements) :
    Step.Bounds limit (fun _ => True) (vm.pushAll elements) := by
  induction elements with
  | nil => exact .unit
  | cons element elements inductionHypothesis =>
      rcases ElementsWithin.cons_iff.mp within with ⟨short, restWithin⟩
      exact (push_bounds short).bind fun _ _ => inductionHypothesis restWithin

theorem pushBounded_bounds (element : Bytes) :
    Step.Bounds vm.maxElementSize (fun _ => True) (vm.pushBounded element) := by
  simp only [pushBounded, Sequencing.throw_bind]
  exact .refuse fun short => push_bounds (Nat.le_of_not_lt short)

/-- A number that is popped is also bounded by the length of operands. -/
theorem popNumber_bounds {limit : Nat} :
    Step.Bounds limit (fun number => number.natAbs < 2 ^ (8 * vm.numberBounds.operandSize - 1))
      vm.popNumber := by
  have pops : Step.Bounds limit (fun _ => True) vm.popNumber := Step.pop_bounds.bind fun _ _ =>
    Step.ofExcept_bounds
  exact pops.of_yields fun _ => natAbs_lt_of_popNumber

theorem popIndex_bounds {limit : Nat} : Step.Bounds limit (fun _ => True) vm.popIndex :=
  popNumber_bounds.bind fun _ _ => .pure trivial

end Interpreter
end SpendRules

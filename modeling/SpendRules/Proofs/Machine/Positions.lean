import Mathlib.Data.Nat.PSub
import SpendRules.Proofs.Machine.Steps

namespace SpendRules

/-!
# Elements at positions

A check of several signatures can leave them and their keys on the stack and keep
positions and counts instead.  Nothing but arithmetic then makes sure that the
positions lie on the stack and that no count falls below zero.  Partial steps
have no result where this goes wrong.
-/

/-- A step that comes to nothing where a position is outside of its range or a
count would be less than zero. -/
abbrev PartialStep (α : Type) := OptionT Step α

namespace PartialStep

variable {α β : Type}

theorem run_bind_liftM (step : Step α) (next : α -> PartialStep β) :
    (liftM step >>= next : PartialStep β).run = step >>= fun value => (next value).run := by
  funext machine
  change EStateM.bind (EStateM.bind step _) _ machine = EStateM.bind step _ machine
  unfold EStateM.bind
  cases step machine with
  | ok value after => rfl
  | error failure after => rfl

theorem run_bind_getM {found : Option α} {value : α} (same : found = some value)
    (next : α -> PartialStep β) :
    (found.getM >>= next : PartialStep β).run = (next value).run := by
  subst same
  rfl

/-- Where a partial step does what a step does, it may come first in its place. -/
theorem run_bind_eq {machine : Machine} {first : PartialStep α} {step : Step α}
    {next : α -> PartialStep β} {rest : α -> Step β}
    (same : first.run machine = (some <$> step) machine)
    (restSame : forall value middle, step machine = .ok value middle ->
      (next value).run middle = (some <$> rest value) middle) :
    (first >>= next).run machine = (some <$> (step >>= rest)) machine := by
  have firstRun : (first >>= next).run machine =
      (some <$> step >>= fun found => found.elim (pure none) fun value => (next value).run)
        machine := by
    rw [OptionT.run_bind]
    change EStateM.bind first.run _ machine = EStateM.bind (some <$> step) _ machine
    unfold EStateM.bind
    rw [same]
  rw [firstRun, map_bind, bind_map_left]
  exact Sequencing.bind_congr restSame

/-- The element at a depth.  The top element has depth one. -/
def atDepth (depth : Nat) : PartialStep Bytes := do
  let index <- depth.ppred.getM
  let stack <- Step.stack
  stack[index]?.getM

/-- The elements from a depth on. -/
def fromDepth : Nat -> Nat -> PartialStep (List Bytes)
  | _, 0 => pure []
  | depth, count + 1 => do
    let element <- atDepth depth
    let elements <- fromDepth (depth + 1) count
    return element :: elements

/-- The element that has a depth less by a count, so that it is above another one. -/
def aboveDepth (depth count : Nat) : PartialStep Bytes := do
  let depth <- (depth.psub count).getM
  atDepth depth

end PartialStep

/-- The elements lie on the stack of the machine, the first one at the depth and
the others below it. -/
structure Machine.Holds (machine : Machine) (depth : Nat) (elements : List Bytes) : Prop where
  pos : 0 < depth
  lie : elements <+: machine.stack.drop (depth - 1)

namespace Machine.Holds

variable {machine other : Machine} {depth : Nat} {element : Bytes} {elements : List Bytes}

theorem of_stack_eq (holds : machine.Holds depth elements) (same : other.stack = machine.stack) :
    other.Holds depth elements :=
  ⟨holds.pos, same ▸ holds.lie⟩

/-- Below the first element lie the others. -/
theorem tail (holds : machine.Holds depth (element :: elements)) :
    machine.Holds (depth + 1) elements := by
  rcases holds.lie with ⟨below, same⟩
  refine ⟨Nat.succ_pos depth, below, ?_⟩
  rw [Nat.add_sub_cancel, ← Nat.sub_add_cancel holds.pos, ← List.drop_drop, ← same]
  rfl

/-- The keys and signatures of a multiple signature lie below their counts. -/
theorem of_stack {keyCount sigCount : Bytes} {keys signatures rest : List Bytes}
    (stack : machine.stack = keyCount :: (keys ++ sigCount :: (signatures ++ rest))) :
    machine.Holds 2 keys ∧ machine.Holds (keys.length + 3) signatures := by
  refine ⟨⟨Nat.zero_lt_succ 1, sigCount :: (signatures ++ rest), ?_⟩,
    ⟨Nat.zero_lt_succ _, rest, ?_⟩⟩
  · rw [stack]
    rfl
  · rw [stack, Nat.add_succ_sub_one, List.drop_succ_cons, List.drop_length_add_append]
    rfl

end Machine.Holds

namespace PartialStep

variable {α : Type} {machine : Machine} {depth index : Nat} {element : Bytes}
  {elements : List Bytes}

theorem run_bind_atDepth (holds : machine.Holds depth elements)
    (found : elements[index]? = some element) (next : Bytes -> PartialStep α) :
    (atDepth (depth + index) >>= next).run machine = (next element).run machine := by
  have above : (depth + index).ppred = some (depth - 1 + index) := by
    have pos := holds.pos
    rw [Nat.ppred_eq_some]
    omega
  have lies : machine.stack[depth - 1 + index]? = some element := by
    rcases List.getElem?_eq_some_iff.mp found with ⟨within, rfl⟩
    rw [← List.getElem?_drop]
    exact List.prefix_iff_getElem?.mp holds.lie index within
  rw [atDepth, bind_assoc, run_bind_getM above, bind_assoc, run_bind_liftM, Step.stack_bind,
    run_bind_getM lies]

/-- The first of the elements is found at their depth. -/
theorem run_bind_atDepth_first (holds : machine.Holds depth (element :: elements))
    (next : Bytes -> PartialStep α) :
    (atDepth depth >>= next).run machine = (next element).run machine :=
  run_bind_atDepth holds (List.getElem?_cons_zero) next

theorem run_bind_fromDepth (holds : machine.Holds depth elements)
    (next : List Bytes -> PartialStep α) :
    (fromDepth depth elements.length >>= next).run machine = (next elements).run machine := by
  induction elements generalizing depth next with
  | nil => rfl
  | cons element elements inductionHypothesis =>
      rw [List.length_cons, fromDepth, bind_assoc, run_bind_atDepth_first holds, bind_assoc,
        inductionHypothesis holds.tail]
      rfl

/-- The elements are found from the last one on as well. -/
theorem run_bind_aboveDepth (holds : machine.Holds depth elements)
    (found : elements.reverse[index]? = some element) (next : Bytes -> PartialStep α) :
    (aboveDepth (depth + elements.length - 1) index >>= next).run machine =
      (next element).run machine := by
  have within : index < elements.length := by
    rw [← List.length_reverse]
    exact (List.getElem?_eq_some_iff.mp found).1
  rw [List.getElem?_reverse within] at found
  have above : (depth + elements.length - 1).psub index =
      some (depth + (elements.length - 1 - index)) := by
    rw [Nat.psub_eq_some]
    omega
  rw [aboveDepth, bind_assoc, run_bind_getM above, run_bind_atDepth holds found]

end PartialStep
end SpendRules

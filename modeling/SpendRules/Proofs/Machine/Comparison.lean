import SpendRules.Proofs.Machine.Failures
import SpendRules.Proofs.Sequencing

namespace SpendRules

/-!
# Comparing steps of a machine

Many properties of a machine are comparisons of two steps: the second step
succeeds wherever the first one does, both have the same result, or, when the
second step is ignored, the first one changes nothing that it should keep.  A
comparison that goes through sequencing can be carried through a whole run,
from the few places where two interpreters differ.

A comparison is not required to hold between every step and itself.  It holds
between equal returns, failures and looks at the machine; everything that
changes the machine has to be supplied by those who use the comparison.  The
failures are those that single steps stop with.  One more is supplied together
with the count of operations, and others are left to what happens around scripts.

The machine on the second side may have further elements below its stack.  Then
a step that finds too few elements may find enough on the second side, and the
comparison has to put up with that.
-/

/-- The machine with further elements below its stack. -/
def Machine.atop (machine : Machine) (below : List Bytes) : Machine :=
  { machine with stack := machine.stack ++ below }

namespace Machine

variable (machine : Machine)

theorem atop_nil : machine.atop [] = machine := by
  rw [atop, List.append_nil]

theorem altStack_atop (below : List Bytes) : (machine.atop below).altStack = machine.altStack := rfl

theorem branches_atop (below : List Bytes) : (machine.atop below).branches = machine.branches := rfl

end Machine

/-- Some success of the step has the value. -/
def Step.Yields {α : Type} (step : Step α) (value : α) : Prop :=
  ∃ state after, step state = .ok value after

theorem Step.yields_ofExcept_iff {α : Type} {result : Except ScriptError α} {value : α} :
    (Step.ofExcept result).Yields value ↔ result = .ok value := by
  cases result with
  | ok found =>
      rw [Except.ok.injEq]
      constructor
      · rintro ⟨state, after, success⟩
        exact (Sequencing.pure_eq_ok_iff.mp success).1
      · rintro rfl
        exact ⟨{ script := { bytes := [] } }, _, rfl⟩
  | error failure =>
      constructor
      · rintro ⟨_, _, impossible⟩
        cases impossible
      · intro impossible
        cases impossible

/-- A demand for elements is a look at the machine. -/
theorem Step.require_bind_get {α : Type} (count : Nat) (next : Machine -> Step α) :
    (Step.require count >>= fun _ => get >>= next) =
      get >>= fun machine =>
        if machine.stack.length < count then throw .invalidStackOperation else next machine := by
  funext state
  have looked : Step.require count state =
      (if state.stack.length < count then throw .invalidStackOperation else pure () :
        Step Unit) state := rfl
  change EStateM.bind (Step.require count) _ state =
    (if state.stack.length < count then throw .invalidStackOperation else next state : Step α) state
  unfold EStateM.bind
  rw [looked]
  by_cases short : state.stack.length < count
  · rw [if_pos short, if_pos short]
    rfl
  · rw [if_neg short, if_neg short]
    rfl

/-- A way to compare steps that goes through sequencing.  What comes second has
to compare only for values that the first step yields. -/
structure Comparison where
  /-- What lies below the stack on the second side. -/
  below : List Bytes
  holds : {α : Type} -> Step α -> Step α -> Prop
  pure : forall {α : Type} (value : α), holds (pure value) (pure value)
  /-- With elements below, a failure of the first step says nothing about the second one. -/
  fail : forall {α : Type} (failure : ScriptError) {second : Step α}
    (_ : below = [] -> second = throw failure)
    (_ : failure.stopsSteps = true), holds (throw failure) second
  look : forall {α : Type} {next next' : Machine -> Step α},
    (forall machine, holds (next machine) (next' (machine.atop below))) ->
      holds (get >>= next) (get >>= next')
  sequence : forall {α β : Type} {first second : Step α} {next next' : α -> Step β},
      holds first second ->
    (forall value, first.Yields value -> holds (next value) (next' value)) ->
      holds (first >>= next) (second >>= next')

namespace Comparison

/-- Every success of the first step is a success of the second one, with the
same value and the same machine. -/
def admission : Comparison where
  below := []
  holds first second := forall state value after, first state = .ok value after ->
    second state = .ok value after
  pure _ _ _ _ success := success
  fail _ _ _ _ _ _ _ success := (Sequencing.throw_ne_ok success).elim
  look := by
    intro α next next' admits state value after success
    have admitted := admits state state value after success
    rwa [Machine.atop_nil] at admitted
  sequence := by
    intro α β first second next next' admits nextAdmits state value after success
    rcases Sequencing.bind_eq_ok_iff.mp success with ⟨found, middle, firstSuccess, nextSuccess⟩
    apply Sequencing.bind_eq_ok_iff.mpr
    exact ⟨found, middle, admits state found middle firstSuccess,
      nextAdmits found ⟨state, middle, firstSuccess⟩ middle value after nextSuccess⟩

theorem admission_refl {α : Type} (step : Step α) : admission.holds step step :=
  fun _ _ _ success => success

/-- A refusal that the second step makes less often. -/
theorem admission_unless {α : Type} {refused refused' : Prop} [Decidable refused]
    [Decidable refused'] {failure failure' : ScriptError} {first second : Step α}
    (fewer : refused' -> refused) (admits : admission.holds first second) :
    admission.holds (if refused then MonadExcept.throw failure else first)
      (if refused' then MonadExcept.throw failure' else second) := by
  intro state value after success
  by_cases holds : refused
  · rw [if_pos holds] at success
    exact (Sequencing.throw_ne_ok success).elim
  · rw [if_neg holds] at success
    rw [if_neg (mt fewer holds)]
    exact admits state value after success

theorem admission_ofExcept {α : Type} {first second : Except ScriptError α}
    (admits : forall value, first = .ok value -> second = .ok value) :
    admission.holds (Step.ofExcept first) (Step.ofExcept second) := by
  cases first with
  | ok value =>
      rw [admits value rfl]
      exact admission_refl _
  | error failure =>
      intro state value after success
      exact (Sequencing.throw_ne_ok success).elim

/-- Both steps are the same. -/
def equality : Comparison where
  below := []
  holds first second := first = second
  pure _ := rfl
  fail _ _ same _ := (same rfl).symm
  look := by
    intro α next next' same
    funext state
    have looked := congrFun (same state) state
    rwa [Machine.atop_nil] at looked
  sequence := by
    intro α β first second next next' same nextSame
    subst same
    funext state
    exact Sequencing.bind_congr fun value middle success =>
      congrFun (nextSame value ⟨state, middle, success⟩) middle

/-- The successes of the first step relate the machine before to the machine
after.  The second step does not matter. -/
def relating (related : Machine -> Machine -> Prop) (refl : forall machine, related machine machine)
    (trans : forall first second third, related first second -> related second third ->
      related first third) :
    Comparison where
  below := []
  holds first _ := forall state value after, first state = .ok value after -> related state after
  pure := by
    intro α given state value after success
    rw [(Sequencing.pure_eq_ok_iff.mp success).2]
    exact refl after
  fail _ _ _ _ _ _ _ success := (Sequencing.throw_ne_ok success).elim
  look relates state value after success := relates state state value after success
  sequence := by
    intro α β first second next next' relates nextRelates state value after success
    rcases Sequencing.bind_eq_ok_iff.mp success with ⟨found, middle, firstSuccess, nextSuccess⟩
    have nextRelated :=
      nextRelates found ⟨state, middle, firstSuccess⟩ middle value after nextSuccess
    exact trans _ _ _ (relates state found middle firstSuccess) nextRelated

/-- A failure relates nothing. -/
theorem relating_throw {related : Machine -> Machine -> Prop}
    {refl : forall machine, related machine machine}
    {trans : forall first second third, related first second -> related second third ->
      related first third}
    {α : Type} (failure : ScriptError) (second : Step α) :
    (relating related refl trans).holds (MonadExcept.throw failure) second :=
  fun _ _ _ success => (Sequencing.throw_ne_ok success).elim

/-- A change that relates every machine to what it makes of it. -/
theorem relating_modify {related : Machine -> Machine -> Prop}
    {refl : forall machine, related machine machine}
    {trans : forall first second third, related first second -> related second third ->
      related first third}
    {change : Machine -> Machine} (second : Step PUnit)
    (relates : forall machine, related machine (change machine)) :
    (relating related refl trans).holds (modify change) second := by
  intro state value after success
  rw [← Sequencing.modify_eq_ok_iff.mp success]
  exact relates state

/-- The successes of the first step do not change what a function reads off
the machine. -/
def keeping {γ : Type} (read : Machine -> γ) : Comparison :=
  relating (fun state after => read after = read state) (fun _ => rfl) fun _ _ _ first second =>
    second.trans first

/-- A change of the machine that the function does not see. -/
theorem keeping_modify {γ : Type} {read : Machine -> γ} {change : Machine -> Machine}
    (second : Step PUnit) (unseen : forall machine, read (change machine) = read machine) :
    (keeping read).holds (modify change) second :=
  relating_modify second unseen

variable (c : Comparison) {α : Type}

theorem bind {β : Type} {first second : Step α} {next next' : α -> Step β}
    (holds : c.holds first second) (nextHolds : forall value, c.holds (next value) (next' value)) :
    c.holds (first >>= next) (second >>= next') :=
  c.sequence holds fun value _ => nextHolds value

theorem unit : c.holds (Pure.pure () : Step Unit) (Pure.pure ()) := c.pure ()

theorem throw (failure : ScriptError) (stops : failure.stopsSteps = true) :
    c.holds (MonadExcept.throw failure : Step α) (MonadExcept.throw failure) :=
  c.fail failure (fun _ => rfl) stops

/-- Equal conditions choose between steps that compare. -/
theorem ite {condition : Prop} [Decidable condition] {first second first' second' : Step α}
    (taken : c.holds first first') (passed : c.holds second second') :
    c.holds (if condition then first else second) (if condition then first' else second') := by
  by_cases holds : condition
  · rw [if_pos holds, if_pos holds]
    exact taken
  · rw [if_neg holds, if_neg holds]
    exact passed

theorem ofExcept {result : Except ScriptError α} (stops : StopsSteps result) :
    c.holds (Step.ofExcept result) (Step.ofExcept result) := by
  cases result with
  | ok value => exact c.pure value
  | error failure => exact c.throw failure (stops failure rfl)

/-- Steps that look at the stack either fail alike, or they compare with further
elements below the stack of the second one. -/
theorem lookStack (failure : ScriptError) (stops : failure.stopsSteps = true)
    {next next' : List Bytes -> Step α}
    (compares : forall stack, (next stack = MonadExcept.throw failure ∧
      next' stack = MonadExcept.throw failure) ∨ c.holds (next stack) (next' (stack ++ c.below))) :
    c.holds (Step.stack >>= next) (Step.stack >>= next') := by
  refine c.look fun machine => ?_
  change c.holds (next machine.stack) (next' (machine.stack ++ c.below))
  rcases compares machine.stack with ⟨fails, fails'⟩ | holds
  · rw [fails]
    refine c.fail failure (fun bare => ?_) stops
    rw [bare, List.append_nil, fails']
  · exact holds

/-- A demand for elements and a look at the machine, which then has them. -/
theorem requireLook (count : Nat) {next next' : Machine -> Step α}
    (holds : forall machine, count ≤ machine.stack.length ->
      c.holds (next machine) (next' (machine.atop c.below))) :
    c.holds (Step.require count >>= fun _ => MonadState.get >>= next)
      (Step.require count >>= fun _ => MonadState.get >>= next') := by
  rw [Step.require_bind_get, Step.require_bind_get]
  refine c.look fun machine => ?_
  by_cases short : machine.stack.length < count
  · rw [if_pos short]
    refine c.fail .invalidStackOperation (fun bare => ?_) rfl
    rw [bare, Machine.atop_nil, if_pos short]
  · have enough : ¬ (machine.atop c.below).stack.length < count := by
      simp only [Machine.atop, List.length_append]
      omega
    rw [if_neg short, if_neg enough]
    exact holds machine (Nat.le_of_not_lt short)

theorem require (count : Nat) : c.holds (Step.require count) (Step.require count) := by
  refine c.lookStack .invalidStackOperation rfl fun stack => ?_
  by_cases short : stack.length < count
  · exact Or.inl ⟨if_pos short, if_pos short⟩
  · right
    have enough : ¬ (stack ++ c.below).length < count := by
      rw [List.length_append]
      omega
    rw [if_neg short, if_neg enough]
    exact c.unit

theorem elementAt (index : Nat) : c.holds (Step.elementAt index) (Step.elementAt index) := by
  refine c.lookStack .invalidStackOperation rfl fun stack => ?_
  cases found : stack[index]? with
  | none => exact Or.inl ⟨rfl, rfl⟩
  | some element =>
      right
      rw [List.getElem?_append_left (List.getElem?_eq_some_iff.mp found).1, found]
      exact c.pure element

/-- The comparison holds between equal changes of the stack above what lies
below, and between equal changes of the other stack. -/
structure AdmitsStackChanges : Prop where
  push : forall element : Bytes,
    c.holds (modify fun machine => { machine with stack := element :: machine.stack })
      (modify fun machine => { machine with stack := element :: machine.stack })
  setStack : forall stack : List Bytes,
    c.holds (Step.setStack stack) (Step.setStack (stack ++ c.below))
  altStack : forall change : List Bytes -> List Bytes,
    c.holds (modify fun machine => { machine with altStack := change machine.altStack })
      (modify fun machine => { machine with altStack := change machine.altStack })

/-- It also holds between equal changes of the open branches, which few operations
make. -/
structure AdmitsBranchChanges : Prop extends AdmitsStackChanges c where
  branches : forall change : List Bool -> List Bool,
    c.holds (modify fun machine => { machine with branches := change machine.branches })
      (modify fun machine => { machine with branches := change machine.branches })

/-- It also holds between equal changes of the start of the code, which one
operation makes. -/
structure AdmitsControlChanges : Prop extends AdmitsBranchChanges c where
  codeStart : forall start : Nat,
    c.holds (modify fun machine => { machine with codeStart := start })
      (modify fun machine => { machine with codeStart := start })

/-- The comparison holds between equal counts of operations, and between failures
for their number. -/
structure AdmitsCounting : Prop where
  opCount : forall count : Nat,
    c.holds (modify fun machine => { machine with opCount := machine.opCount + count })
      (modify fun machine => { machine with opCount := machine.opCount + count })
  tooMany : c.holds (MonadExcept.throw .opCount : Step Unit) (MonadExcept.throw .opCount)

/-- The comparison holds between equal changes of all kinds. -/
structure AdmitsChanges : Prop extends AdmitsControlChanges c, AdmitsCounting c

namespace AdmitsChanges

variable {c}

/-- The changes touch neither the work done nor the calls of the verifier. -/
theorem of_modify (bare : c.below = [])
    (tooMany : c.holds (MonadExcept.throw .opCount : Step Unit) (MonadExcept.throw .opCount))
    (holds : forall change : Machine -> Machine,
      (forall machine, (change machine).metrics = machine.metrics) ->
      (forall machine, (change machine).calls = machine.calls) ->
      c.holds (modify change) (modify change)) :
    c.AdmitsChanges := by
  refine ⟨⟨⟨⟨fun _ => ?_, fun stack => ?_, fun _ => ?_⟩, fun _ => ?_⟩, fun _ => ?_⟩,
    fun _ => ?_, tooMany⟩
  · exact holds _ (fun _ => rfl) fun _ => rfl
  · rw [bare, List.append_nil]
    exact holds _ (fun _ => rfl) fun _ => rfl
  all_goals exact holds _ (fun _ => rfl) fun _ => rfl

/-- A comparison that holds between every step and itself admits all changes. -/
theorem of_refl (bare : c.below = []) (refl : forall step : Step Unit, c.holds step step) :
    c.AdmitsChanges :=
  of_modify bare (refl _) fun change _ _ => refl (modify change)

end AdmitsChanges

namespace AdmitsStackChanges

variable {c} (changes : c.AdmitsStackChanges)

include changes

theorem pop : c.holds Step.pop Step.pop := by
  refine c.lookStack .invalidStackOperation rfl fun stack => ?_
  cases stack with
  | nil => exact Or.inl ⟨rfl, rfl⟩
  | cons top rest => exact Or.inr (c.bind (changes.setStack rest) fun _ => c.pure top)

/-- A rearrangement of what is on top is not disturbed by what lies below. -/
theorem rearrange {change : List Bytes -> Option (List Bytes)}
    (onTop : forall stack changed below, change stack = some changed ->
      change (stack ++ below) = some (changed ++ below)) :
    c.holds (Step.rearrange change) (Step.rearrange change) := by
  refine c.lookStack .invalidStackOperation rfl fun stack => ?_
  cases rearranged : change stack with
  | none => exact Or.inl ⟨rfl, rfl⟩
  | some changed =>
      right
      rw [onTop stack changed c.below rearranged]
      exact changes.setStack changed

theorem verifyTop (failure : ScriptError) (stops : failure.stopsSteps = true) :
    c.holds (Step.verifyTop failure) (Step.verifyTop failure) :=
  c.bind (c.elementAt 0) fun _ => c.ite (c.bind changes.pop fun _ => c.unit) (c.throw failure stops)

theorem verifyTopIf (required : Bool) (failure : ScriptError) (stops : failure.stopsSteps = true) :
    c.holds (Step.verifyTopIf required failure) (Step.verifyTopIf required failure) :=
  c.ite (changes.verifyTop failure stops) c.unit

end AdmitsStackChanges

end Comparison

end SpendRules

import SpendRules.Proofs.Machine.CheckOperands
import SpendRules.Verification

namespace SpendRules

/-!
# Empty signatures

A signature can be withheld by leaving it empty.  A check of empty signatures
only fails: it asks nothing, it counts nothing, and in the end it leaves the
machine as it was.  The one check of empty signatures that succeeds is the one
of no signatures at all.

When failed checks are demanded to have empty signatures, this is demanded of
all signatures that an operation took, also of those that it never came to.
-/

/-- All signatures of the check were withheld. -/
def SignatureCheck.IsEmpty (check : SignatureCheck) : Prop :=
  forall signature, signature ∈ check.signatures -> signature = []

/-- The step never changes the machine, and it gives only values with the
property. -/
def Step.Idles {α : Type} (property : α -> Prop) (step : Step α) : Prop :=
  forall machine, (∃ failure, step machine = .error failure machine) ∨
    ∃ value, step machine = .ok value machine ∧ property value

namespace Step.Idles

variable {α β : Type} {property : α -> Prop} {further : β -> Prop}

theorem pure {value : α} (holds : property value) :
    Step.Idles property (Pure.pure value : Step α) :=
  fun _ => Or.inr ⟨value, rfl, holds⟩

theorem throw (failure : ScriptError) : Step.Idles property (MonadExcept.throw failure : Step α) :=
  fun _ => Or.inl ⟨failure, rfl⟩

theorem ofExcept (result : Except ScriptError α) :
    Step.Idles (fun value => result = .ok value) (Step.ofExcept result) := by
  cases result with
  | ok value => exact .pure rfl
  | error failure => exact .throw failure

theorem bind {step : Step α} {next : α -> Step β} (first : Step.Idles property step)
    (rest : forall value, property value -> Step.Idles further (next value)) :
    Step.Idles further (step >>= next) := by
  intro machine
  rcases first machine with ⟨failure, failed⟩ | ⟨value, success, holds⟩
  · exact Or.inl ⟨failure, Sequencing.bind_of_error failed next⟩
  · rw [Sequencing.bind_of_ok success]
    exact rest value holds machine

theorem ite {condition : Prop} [Decidable condition] {step other : Step α}
    (taken : condition -> Step.Idles property step)
    (passed : ¬ condition -> Step.Idles property other) :
    Step.Idles property (if condition then step else other) := by
  by_cases holds : condition
  · rw [if_pos holds]
    exact taken holds
  · rw [if_neg holds]
    exact passed holds

/-- What changes nothing makes every progress. -/
theorem along {step : Step α} (idles : Step.Idles property step) (progress : Progress Machine)
    (machine : Machine) :
    progress.Along step machine := by
  rcases idles machine with ⟨failure, failed⟩ | ⟨value, success, _⟩
  · rw [Progress.Along, Sequencing.finalState_of_error failed]
    exact progress.refl machine
  · rw [Progress.Along, Sequencing.finalState_of_ok success]
    exact progress.refl machine

end Step.Idles

namespace Interpreter

variable {vm : Interpreter}

/-! ## Checks of empty signatures -/

private theorem any_nonempty_eq_false {signatures : List Bytes}
    (empty : forall signature, signature ∈ signatures -> signature = []) :
    signatures.any (fun signature => !signature.isEmpty) = false := by
  rw [List.any_eq_false]
  intro signature member
  rw [empty signature member]
  decide

/-- Every key is tried in vain. -/
private theorem matchKeys_idles (code : Script) {signatures : List Bytes} (keys : List Bytes)
    (empty : forall signature, signature ∈ signatures -> signature = []) :
    Step.Idles (fun valid => valid = true -> signatures = [])
      (vm.matchKeys code signatures keys) := by
  induction keys with
  | nil =>
      cases signatures with
      | nil => exact .pure fun _ => rfl
      | cons signature signatures => exact .pure nofun
  | cons key keys inductionHypothesis =>
      cases signatures with
      | nil => exact .pure fun _ => rfl
      | cons signature signatures =>
          have withheld : signature = [] := empty signature List.mem_cons_self
          have unasked : Step.Idles (fun valid => valid = false)
              (vm.checkSignature signature key code) := by
            rw [withheld]
            exact .pure rfl
          refine (Step.Idles.ofExcept _).bind fun _ _ => (Step.Idles.ofExcept _).bind fun _ _ =>
            unasked.bind ?_
          rintro _ rfl
          exact .ite (fun _ => .pure nofun) fun _ => inductionHypothesis

/-- The newer scheme has no empty signatures. -/
private theorem demandAll_idles (code : Script) {signatures : List Bytes} (keys : List Bytes)
    (empty : forall signature, signature ∈ signatures -> signature = []) :
    Step.Idles (fun _ => signatures.zip keys = []) (vm.demandAll code (signatures.zip keys)) := by
  cases pairs : signatures.zip keys with
  | nil => exact .pure rfl
  | cons pair pairs =>
      have member : (pair.1, pair.2) ∈ signatures.zip keys := by
        rw [pairs]
        exact List.mem_cons_self
      have withheld : pair.1 = [] := empty _ (List.of_mem_zip member).1
      refine Step.Idles.bind (.ofExcept _) fun _ admitted => ?_
      rw [withheld] at admitted
      cases admitted

private theorem demandEmpty_idles (valid : Bool) (signatures : List Bytes) :
    Step.Idles
      (fun _ => vm.enables .nullFail = true -> valid = false ->
        forall signature, signature ∈ signatures -> signature = [])
      (vm.demandEmpty valid signatures) := by
  refine .ite (fun _ => .throw _) fun passed => .pure fun active failed signature member => ?_
  rw [active, failed, Bool.not_false, Bool.true_and, Bool.true_and, Bool.not_eq_true,
    List.any_eq_false] at passed
  simpa using passed signature member

/-- A check of empty signatures leaves the machine alone, and it succeeds only
when there are none. -/
theorem verdict_idles (code : Script) {check : SignatureCheck} (empty : check.IsEmpty) :
    Step.Idles (fun valid => valid = true -> check.isMultiple = true ∧ check.signatures = [])
      (vm.verdict code check) := by
  cases check with
  | single signature key =>
      obtain rfl : signature = [] := empty signature List.mem_cons_self
      refine (Step.Idles.ofExcept _).bind fun _ _ => (Step.Idles.ofExcept _).bind fun _ _ => ?_
      have unasked : Step.Idles (fun valid => valid = false) (vm.checkSignature [] key code) :=
        .pure rfl
      refine unasked.bind fun valid failed =>
        (demandEmpty_idles valid [[]]).bind fun _ _ => .pure ?_
      rw [failed]
      exact nofun
  | data signature message key =>
      obtain rfl : signature = [] := empty signature List.mem_cons_self
      refine (Step.Idles.ofExcept _).bind fun _ _ => (Step.Idles.ofExcept _).bind fun _ _ => ?_
      have unasked : Step.Idles (fun valid => valid = false)
          (vm.checkDataSignature [] message key) := .pure rfl
      refine unasked.bind fun valid failed =>
        (demandEmpty_idles valid [[]]).bind fun _ _ => .pure ?_
      rw [failed]
      exact nofun
  | matching signatures keys =>
      have withheld : forall signature, signature ∈ signatures -> signature = [] := empty
      refine (matchKeys_idles code keys withheld).bind fun valid allowed => ?_
      refine (demandEmpty_idles valid signatures).bind fun _ _ =>
        .ite (fun nonempty => ?_) fun _ => ?_
      · rw [any_nonempty_eq_false withheld] at nonempty
        cases nonempty
      · exact .pure fun holds => ⟨rfl, allowed holds⟩
  | selection bitfield signatures keys =>
      simp only [verdict, checkMultiSigBySelection, Sequencing.throw_bind]
      refine (Step.Idles.ofExcept _).bind fun bits _ => .ite (fun _ => .throw _) fun paired => ?_
      have reversed (signature : Bytes) (member : signature ∈ signatures.reverse) :
          signature = [] :=
        empty signature (List.mem_reverse.mp member)
      refine (demandAll_idles code _ reversed).bind fun _ none => .pure fun _ => ⟨rfl, ?_⟩
      have count := congrArg List.length none
      rw [List.length_zip, Decidable.not_not.mp paired, List.length_reverse, Nat.min_self] at count
      exact List.eq_nil_of_length_eq_zero count

/-! ## Failed checks -/

private theorem withheld_of_demandEmpty {signatures : List Bytes} {machine after : Machine}
    (active : vm.enables .nullFail = true)
    (demanded : vm.demandEmpty false signatures machine = .ok () after) :
    forall signature, signature ∈ signatures -> signature = [] := by
  rcases demandEmpty_idles false signatures machine with ⟨failure, failed⟩ | ⟨_, _, withheld⟩
  · cases failed.symm.trans demanded
  · exact withheld active rfl

/-- Where it is demanded, the signatures of a check that failed without failing
the script are empty. -/
theorem isEmpty_of_verdict {code : Script} {check : SignatureCheck} {machine after : Machine}
    (active : vm.enables .nullFail = true)
    (failed : vm.verdict code check machine = .ok false after) :
    check.IsEmpty := by
  cases check with
  | single signature key =>
      rcases Sequencing.bind_eq_ok_iff.mp failed with ⟨_, _, _, failed⟩
      rcases Sequencing.bind_eq_ok_iff.mp failed with ⟨_, _, _, failed⟩
      rcases Sequencing.bind_eq_ok_iff.mp failed with ⟨valid, _, _, failed⟩
      rcases Sequencing.bind_eq_ok_iff.mp failed with ⟨_, middle, demanded, failed⟩
      obtain rfl : valid = false := eq_of_counted failed
      exact withheld_of_demandEmpty active demanded
  | data signature message key =>
      rcases Sequencing.bind_eq_ok_iff.mp failed with ⟨_, _, _, failed⟩
      rcases Sequencing.bind_eq_ok_iff.mp failed with ⟨_, _, _, failed⟩
      rcases Sequencing.bind_eq_ok_iff.mp failed with ⟨valid, _, _, failed⟩
      rcases Sequencing.bind_eq_ok_iff.mp failed with ⟨_, middle, demanded, returned⟩
      obtain rfl : valid = false := (Sequencing.pure_eq_ok_iff.mp returned).1
      exact withheld_of_demandEmpty active demanded
  | matching signatures keys =>
      rcases Sequencing.bind_eq_ok_iff.mp failed with ⟨valid, _, _, failed⟩
      rcases Sequencing.bind_eq_ok_iff.mp failed with ⟨_, middle, demanded, failed⟩
      obtain rfl : valid = false := eq_of_counted failed
      exact withheld_of_demandEmpty active demanded
  | selection bitfield signatures keys =>
      -- The newer way succeeds or fails the script.
      simp only [verdict, checkMultiSigBySelection, Sequencing.throw_bind] at failed
      rcases Sequencing.bind_eq_ok_iff.mp failed with ⟨bits, _, _, failed⟩
      rcases Sequencing.unless_eq_ok_iff.mp failed with ⟨_, failed⟩
      rcases Sequencing.bind_eq_ok_iff.mp failed with ⟨_, _, _, returned⟩
      cases (Sequencing.pure_eq_ok_iff.mp returned).1

/-- The stack shows whether the check succeeded. -/
private theorem stack_of_conclude {required valid : Bool} {failure : ScriptError}
    {rest : List Bytes} {machine after : Machine}
    (concluded : vm.conclude required failure rest valid machine = .ok () after) :
    after.stack = (if valid then [1] else []) :: rest ∨ (valid = true ∧ after.stack = rest) := by
  rcases Sequencing.bind_eq_ok_iff.mp concluded with ⟨_, replaced, replaces, concluded⟩
  rcases Sequencing.bind_eq_ok_iff.mp concluded with ⟨_, pushed, pushes, concluded⟩
  rw [← Step.setStack_eq_ok_iff.mp replaces] at pushes
  have stack : pushed.stack = (if valid then [1] else []) :: rest := by
    rw [← push_eq_ok_iff.mp pushes]
  cases required with
  | false =>
      rw [← (Sequencing.pure_eq_ok_iff.mp concluded).2]
      exact Or.inl stack
  | true =>
      rcases Step.verifyTop_eq_ok_iff.mp concluded with ⟨top, below, found, holds, same⟩
      rw [stack] at found
      cases found
      rw [← same]
      cases valid with
      | false => cases holds
      | true => exact Or.inr ⟨rfl, rfl⟩

/-! ## Operations -/

section

variable {operation : Operation} (checks : operation.checksSignature = true) {executing : Bool}
  {next : Nat}
  {machine after : Machine}

include checks

/-- An operation that succeeds leaves true, nothing or false in the place of the
check, and where it is demanded, only checks of empty signatures leave false. -/
private theorem leaves_of_perform
    (performed : vm.perform operation executing next machine = .ok () after) :
    ∃ check rest, vm.Finds operation machine.stack check rest ∧
      (after.stack = [1] :: rest ∨ after.stack = rest ∨
        (after.stack = [] :: rest ∧ (vm.enables .nullFail = true -> check.IsEmpty))) := by
  rcases exists_finds_of_perform checks performed with
    ⟨check, rest, required, failure, opCount, valid, middle, found, _, judged, concluded⟩
  refine ⟨check, rest, found, ?_⟩
  rcases stack_of_conclude concluded with left | ⟨_, left⟩
  · cases valid with
    | true => exact Or.inl left
    | false => exact Or.inr (Or.inr ⟨left, fun active => isEmpty_of_verdict active judged⟩)
  · exact Or.inr (Or.inl left)

variable {check : SignatureCheck} {rest : List Bytes}
  (found : vm.Finds operation machine.stack check rest)
  (empty : check.IsEmpty)

include found empty

private theorem checkRecord_of_isEmpty (executing : Bool) (next : Nat) :
    (Progress.still.on Machine.checkRecord).Along (vm.perform operation executing next)
      machine := by
  refine perform_along checks executing next fun check' rest' opCount found' => ?_
  rcases found.unique found' with ⟨rfl, rfl⟩
  exact (verdict_idles _ empty).along _ _

private theorem leaves_of_isEmpty
    (performed : vm.perform operation executing next machine = .ok () after) :
    after.stack = [] :: rest ∨ (check.isMultiple = true ∧ check.signatures = []) := by
  rcases exists_finds_of_perform checks performed with
    ⟨check', rest', required, failure, opCount, valid, middle, found', _, judged, concluded⟩
  rcases found.unique found' with ⟨rfl, rfl⟩
  rcases verdict_idles _ empty { machine with opCount := opCount } with
    ⟨_, failed⟩ | ⟨value, success, allowed⟩
  · cases failed.symm.trans judged
  · cases success.symm.trans judged
    cases valid with
    | true => exact Or.inr (allowed rfl)
    | false =>
        rcases stack_of_conclude concluded with left | ⟨impossible, _⟩
        · exact Or.inl left
        · cases impossible

end

/-- A failed check has empty signatures where this is demanded, and empty
signatures only ever make a check fail.

When an instruction that checks signatures succeeds, it has found a check on the
stack.  It leaves true in its place, or nothing when truth is required, or false;
and when it leaves false while failed checks are demanded to be of empty
signatures, all signatures of the check are empty.

Whether the instruction succeeds or fails, a check of empty signatures asks the
verifier nothing and counts no check.  If it succeeds nevertheless, it leaves
false, unless it is a multiple signature of no signatures. -/
theorem isEmpty_of_failedCheck (vm : Interpreter) (instruction : Instruction) (next : Nat)
    (machine : Machine) (checks : (Opcode.operation instruction.opcode).checksSignature = true)
    (executing : machine.isExecuting = true) :
    (forall after, vm.step instruction next machine = .ok () after -> ∃ check rest,
      vm.Finds (Opcode.operation instruction.opcode) machine.stack check rest ∧
        (after.stack = [1] :: rest ∨ after.stack = rest ∨
          (after.stack = [] :: rest ∧ (vm.enables .nullFail = true -> check.IsEmpty)))) ∧
    forall check rest, vm.Finds (Opcode.operation instruction.opcode) machine.stack check rest ->
      check.IsEmpty ->
      (Sequencing.finalState (vm.step instruction next) machine).calls = machine.calls ∧
      (Sequencing.finalState (vm.step instruction next) machine).metrics.sigChecks =
        machine.metrics.sigChecks ∧
      forall after, vm.step instruction next machine = .ok () after ->
        after.stack = [] :: rest ∨ (check.isMultiple = true ∧ check.signatures = []) := by
  -- Permitting the instruction changes neither the stack nor the open branches nor the record.
  have carries (permitted : Machine) (permits : vm.permit instruction machine = .ok () permitted) :
      permitted.stack = machine.stack ∧ vm.carryOut instruction next permitted =
        vm.perform (Opcode.operation instruction.opcode) true next permitted := by
    have same := eq_of_permit permits
    have still : permitted.isExecuting = true := same ▸ executing
    exact ⟨same ▸ rfl, carryOut_of_checksSignature checks still next⟩
  constructor
  · intro after stepped
    rcases step_eq_ok_iff.mp stepped with ⟨permitted, permits, carried, _⟩
    rcases carries permitted permits with ⟨stack, performs⟩
    rw [performs] at carried
    rw [← stack]
    exact leaves_of_perform checks carried
  · intro check rest found empty
    have unchanged : (Progress.still.on Machine.checkRecord).Along (vm.step instruction next)
        machine := by
      refine step_along fun permitted permits => ?_
      rcases carries permitted permits with ⟨stack, performs⟩
      unfold Progress.Along Sequencing.finalState
      rw [performs]
      exact checkRecord_of_isEmpty checks (stack ▸ found) empty true next
    refine ⟨congrArg CheckRecord.calls unchanged, congrArg CheckRecord.sigChecks unchanged, ?_⟩
    intro after stepped
    rcases step_eq_ok_iff.mp stepped with ⟨permitted, permits, carried, _⟩
    rcases carries permitted permits with ⟨stack, performs⟩
    rw [performs] at carried
    exact leaves_of_isEmpty checks (stack ▸ found) empty carried

/-- An interpreter that demands empty signatures of failed checks, and whose
verifier would accept every signature. -/
private def demandingInterpreter : Interpreter :=
  Configuration.interpreter {} Rule.nullFail.publicMask (fun _ => .ok true) none

/-- The operands of a multiple signature of one key, whose one signature is
withheld, above an element that is left. -/
private def withheldMachine : Machine :=
  { script := { bytes := [0xae] }, stack := [[1], [2], [1], [], [], [7]] }

private def multiSigInstruction : Instruction :=
  { opcode := 0xae, lengthField := [], data := none }

/-- The check fails without failing the script, and nothing was asked or counted. -/
theorem isEmpty_of_failedCheck_withheld :
    ∃ after, demandingInterpreter.step multiSigInstruction 1 withheldMachine = .ok () after ∧
      after.stack = [] :: [[7]] ∧ after.calls = [] ∧ after.metrics.sigChecks = 0 := by
  have found : demandingInterpreter.Finds (.checkMultiSig false)
      ([1] :: ([[2]] ++ [1] :: ([[]] ++ [] :: [[7]])))
      (.matching [[]] [[2]]) [[7]] := .multiple ⟨1, rfl, rfl⟩ ⟨1, rfl, rfl⟩
  have empty : (SignatureCheck.matching [[]] [[2]]).IsEmpty :=
    fun signature member => List.mem_singleton.mp member
  have stepped : demandingInterpreter.step multiSigInstruction 1 withheldMachine =
      .ok () (Sequencing.finalState (demandingInterpreter.step multiSigInstruction 1)
        withheldMachine) := rfl
  rcases isEmpty_of_failedCheck demandingInterpreter multiSigInstruction 1 withheldMachine
    (by decide) (by decide)
    with ⟨_, idle⟩
  rcases idle _ _ found empty with ⟨calls, sigChecks, leaves⟩
  refine ⟨_, stepped, (leaves _ stepped).resolve_right ?_, calls, sigChecks⟩
  rintro ⟨_, impossible⟩
  cases impossible

end Interpreter
end SpendRules

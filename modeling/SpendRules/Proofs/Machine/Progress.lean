import SpendRules.Proofs.Machine.Run
import SpendRules.Proofs.Progress

namespace SpendRules

/-!
# Progress along the run of a script

Nothing that a machine does for a script is undone when the script fails.  A relation
that holds along each step therefore holds along the run, and only the steps that
change what the relation is about have to be looked at.  The record of signature
checks is changed by the operations that check signatures alone.
-/

/-- What comes after a check may rely on its result. -/
theorem Progress.Along.check {α β : Type} {result : Except ScriptError α} {next : α -> Step β}
    {progress : Progress Machine} {machine : Machine}
    (along : forall value, result = .ok value -> progress.Along (next value) machine) :
    progress.Along (Step.ofExcept result >>= next) machine := by
  cases result with
  | ok value => exact along value rfl
  | error failure => exact progress.refl machine

/-- The first step makes progress from every machine.  The second step does not
matter. -/
def Comparison.along (progress : Progress Machine) : Comparison where
  below := []
  holds first _ := forall machine, progress.Along first machine
  pure value _ := Progress.Along.pure value
  fail failure _ _ _ _ := Progress.Along.throw failure
  look along machine := Progress.Along.look (along machine machine)
  sequence along nextAlong machine :=
    Progress.Along.bind (along machine) fun value middle success =>
      nextAlong value ⟨machine, middle, success⟩ middle

/-- The record of signature checks: how many were counted, and the questions that
were asked. -/
structure CheckRecord where
  sigChecks : Nat
  calls : List VerifierCall

def Session.checkRecord (session : Session) : CheckRecord :=
  { sigChecks := session.metrics.sigChecks, calls := session.calls }

def Machine.checkRecord (machine : Machine) : CheckRecord :=
  machine.toSession.checkRecord

namespace Interpreter

/-- Nothing but a signature check changes the record of signature checks. -/
theorem corresponds_along (vm : Interpreter) (progress : Progress CheckRecord) :
    Corresponds (Comparison.along (progress.on Machine.checkRecord)) vm vm := by
  let c := Comparison.along (progress.on Machine.checkRecord)
  have unseen (change : Machine -> Machine)
      (same : forall machine, (change machine).checkRecord = machine.checkRecord) :
      c.holds (modify change) (modify change) := by
    intro machine
    apply Progress.Along.modify
    change progress.leads machine.checkRecord (change machine).checkRecord
    rw [same]
    exact progress.refl _
  have charge (cost : Nat) : c.holds (vm.charge cost) (vm.charge cost) :=
    c.ite (unseen _ fun _ => rfl) c.unit
  refine Corresponds.self ?_ charge fun length twofold => ?_
  · refine .of_modify rfl (fun _ => .throw _) fun change metrics calls =>
      unseen change fun machine => ?_
    unfold Machine.checkRecord Session.checkRecord
    rw [metrics, calls]
  · exact c.bind (unseen _ fun _ => rfl) fun _ => c.bind (charge _) fun _ =>
      c.look fun _ => c.ite (c.throw _ rfl) c.unit

variable {vm : Interpreter} {progress : Progress CheckRecord} {script : Script}

/-- What holds of the record for each operation that checks signatures holds for
the evaluation of a script. -/
theorem evaluate_along (checks : forall instruction, instruction ∈ script.instructions ->
      ComparesChecks (Comparison.along (progress.on Machine.checkRecord)) vm vm instruction)
    (session : Session) : (progress.on Session.checkRecord).Along (vm.evaluate script) session := by
  have ran := (corresponds_along vm progress).run rfl script checks
    { toSession := session, script := script }
  change progress.leads session.checkRecord
    (Sequencing.finalState (vm.run script) _).checkRecord at ran
  change progress.leads session.checkRecord
    (Sequencing.finalState (vm.evaluate script) session).checkRecord
  unfold Sequencing.finalState at ran ⊢
  unfold evaluate
  by_cases long : script.bytes.length > vm.limits.maxScriptSize.toNat
  · rw [if_pos long]
    exact progress.refl _
  · rw [if_neg long]
    cases result : vm.run script { toSession := session, script := script } with
    | ok value machine =>
        rw [result] at ran
        exact ran
    | error failure machine =>
        rw [result] at ran
        exact ran

end Interpreter
end SpendRules

import SpendRules.Proofs.Machine.CheckOperands

namespace SpendRules

/-- By how much the checks that were counted exceed the questions that were
asked. -/
def Session.surplus (session : Session) : Int :=
  session.metrics.sigChecks - session.calls.length

/-!
# Questions are counted

Signature checks are counted in other places than the verifier is asked.  A
single check counts one before or after its question.  A multiple signature of
the older kind counts all of its keys at the end, and asks at most once for each
key on the way.  In between, more questions have been asked than checks were
counted.

So each step earns some number of counted checks beyond the questions that it
asks, and this number may be negative.  The numbers of steps add up, and every
operation as a whole earns at least nothing.
-/

/-- Every success of the step raises the surplus by at least the amount. -/
def Step.Earns {α : Type} (amount : Int) (step : Step α) : Prop :=
  forall machine value after, step machine = .ok value after ->
    machine.surplus + amount ≤ after.surplus

namespace Step.Earns

variable {α β : Type} {amount further : Int} {step : Step α} {next : α -> Step β}

theorem weaken (earns : Step.Earns amount step) (less : further ≤ amount) :
    Step.Earns further step := by
  intro machine value after success
  have earned := earns machine value after success
  omega

theorem bind (first : Step.Earns amount step)
    (nextEarns : forall value, step.Yields value -> Step.Earns further (next value)) :
    Step.Earns (amount + further) (step >>= next) := by
  intro machine value after success
  rcases Sequencing.bind_eq_ok_iff.mp success with ⟨found, middle, firstSuccess, nextSuccess⟩
  have earned := first machine found middle firstSuccess
  have furtherEarned :=
    nextEarns found ⟨machine, middle, firstSuccess⟩ middle value after nextSuccess
  omega

/-- What a step earns is earned after one that earns nothing. -/
theorem after (first : Step.Earns 0 step)
    (nextEarns : forall value, Step.Earns amount (next value)) :
    Step.Earns amount (step >>= next) :=
  (first.bind fun value _ => nextEarns value).weaken (Int.le_of_eq (Int.zero_add amount).symm)

theorem before (first : Step.Earns amount step)
    (nextEarns : forall value, Step.Earns 0 (next value)) :
    Step.Earns amount (step >>= next) :=
  (first.bind fun value _ => nextEarns value).weaken (Int.le_of_eq (Int.add_zero amount).symm)

/-- What a step owes is settled by the steps after it. -/
theorem settle (first : Step.Earns (-amount) step)
    (nextEarns : forall value, Step.Earns amount (next value)) :
    Step.Earns 0 (step >>= next) :=
  (first.bind fun value _ => nextEarns value).weaken (Int.le_of_eq (Int.add_left_neg amount).symm)

theorem throw (failure : ScriptError) : Step.Earns amount (MonadExcept.throw failure : Step α) :=
  fun _ _ _ success => (Sequencing.throw_ne_ok success).elim

theorem pure (value : α) : Step.Earns 0 (Pure.pure value : Step α) := by
  intro machine _ after success
  rw [(Sequencing.pure_eq_ok_iff.mp success).2]
  exact Int.le_of_eq (Int.add_zero _)

theorem ite {condition : Prop} [Decidable condition] {other : Step α}
    (taken : Step.Earns amount step) (passed : Step.Earns amount other) :
    Step.Earns amount (if condition then step else other) := by
  split
  · exact taken
  · exact passed

theorem ofExcept (result : Except ScriptError α) : Step.Earns 0 (Step.ofExcept result) := by
  cases result with
  | ok value => exact .pure value
  | error failure => exact .throw failure

end Step.Earns

namespace Interpreter

variable (vm : Interpreter)

/-- The surplus never falls. -/
private def earning : Comparison :=
  Comparison.relating (fun machine after => machine.surplus ≤ after.surplus)
    (fun _ => Int.le_refl _)
    fun _ _ _ => Int.le_trans

private theorem earns_of_earning {α : Type} {step second : Step α}
    (holds : earning.holds step second) :
    Step.Earns 0 step := by
  intro machine value after success
  rw [Int.add_zero]
  exact holds machine value after success

private theorem corresponds_earning : Corresponds earning vm vm := by
  have changes : earning.AdmitsChanges := by
    refine .of_modify rfl (Comparison.relating_throw _ _) fun change metrics calls =>
      Comparison.relating_modify _ fun machine => ?_
    have same : (change machine).surplus = machine.surplus := by
      unfold Session.surplus
      rw [metrics, calls]
    exact Int.le_of_eq same.symm
  refine Corresponds.self changes ?_ ?_
  · intro cost machine _ after charged
    rw [← charge_eq_ok_iff.mp charged]
    exact Int.le_refl _
  · intro length twofold machine _ after charged
    rw [← (chargeHash_eq_ok_iff.mp charged).1]
    exact Int.le_refl _

/-! ## Questions and counts -/

private theorem ask_earns (query : SignatureQuery) : Step.Earns (-1) (vm.ask query) := by
  intro machine value after success
  rcases Sequencing.bind_eq_ok_iff.mp success with ⟨_, asked, recorded, answered⟩
  have kept : asked = after := by
    cases answer : vm.verifier query with
    | ok valid =>
        rw [answer] at answered
        exact (Sequencing.pure_eq_ok_iff.mp answered).2
    | error failure =>
        rw [answer] at answered
        exact (Sequencing.pure_eq_ok_iff.mp answered).2
  rw [← kept, ← Sequencing.modify_eq_ok_iff.mp recorded]
  simp only [Session.surplus, List.length_cons]
  omega

private theorem countSigChecks_earns (count : Nat) :
    Step.Earns count (vm.countSigChecks count) := by
  intro machine value after success
  rw [← countSigChecks_eq_ok_iff.mp success]
  simp only [Session.surplus]
  omega

private theorem demandContext_earns : Step.Earns 0 vm.demandContext := by
  unfold demandContext
  cases vm.context with
  | none => exact .throw _
  | some context => exact .pure context

private theorem demandEmpty_earns (valid : Bool) (signatures : List Bytes) :
    Step.Earns 0 (vm.demandEmpty valid signatures) :=
  .ite (.throw _) (.pure ())

/-- A signature is asked about once. -/
private theorem checkSignature_earns (signature key : Bytes) (code : Script) :
    Step.Earns (-1) (vm.checkSignature signature key code) := by
  unfold checkSignature
  cases signature.getLast? with
  | none => exact (Step.Earns.pure false).weaken (by decide)
  | some hashByte =>
      exact .after (demandContext_earns vm) fun context => .after (.ofExcept _) fun digest =>
        ask_earns vm _

/-- An empty signature is not asked about. -/
private theorem checkSignature_earns_of_isEmpty {signature : Bytes}
    (empty : signature.isEmpty = true) (key : Bytes) (code : Script) :
    Step.Earns 0 (vm.checkSignature signature key code) := by
  rw [List.isEmpty_iff.mp empty]
  exact .pure false

/-! ## Checks of signatures -/

private theorem checkDataSignature_earns (signature message key : Bytes) :
    Step.Earns 0 (vm.checkDataSignature signature message key) := by
  refine .ite (.pure false) (.after ?_ fun _ => ?_)
  · exact earns_of_earning ((corresponds_earning vm).chargeHash message.length false)
  · exact .settle (ask_earns vm _) fun valid =>
      .before (countSigChecks_earns vm 1) fun _ => .pure valid

/-- Each key is tried once at most, for a signature that has its price. -/
private theorem matchKeys_earns (price : Nat) (code : Script) (signatures keys : List Bytes)
    (each : forall signature, signature ∈ signatures -> forall key,
      Step.Earns (-price) (vm.checkSignature signature key code)) :
    Step.Earns (-(price * keys.length)) (vm.matchKeys code signatures keys) := by
  induction keys generalizing signatures with
  | nil =>
      cases signatures with
      | nil => exact (Step.Earns.pure true).weaken (by simp)
      | cons signature signatures => exact (Step.Earns.pure false).weaken (by simp)
  | cons key keys inductionHypothesis =>
      have nonnegative : (0 : Int) ≤ price * keys.length :=
        Int.mul_nonneg (Int.natCast_nonneg _) (Int.natCast_nonneg _)
      have total : -(price * (key :: keys).length : Int) = -price + -(price * keys.length) := by
        rw [List.length_cons, Int.natCast_add, Int.mul_add]
        omega
      cases signatures with
      | nil => exact (Step.Earns.pure true).weaken (by omega)
      | cons signature signatures =>
          rw [total]
          refine .after (.ofExcept _) fun _ => .after (.ofExcept _) fun _ => ?_
          refine (each signature List.mem_cons_self key).bind fun valid _ => ?_
          refine .ite ((Step.Earns.pure false).weaken (by omega)) (inductionHypothesis _ ?_)
          cases valid with
          | true => exact fun other member => each other (List.mem_cons_of_mem _ member)
          | false => exact each

private theorem checkMultiSigByMatching_earns (code : Script) (signatures keys : List Bytes) :
    Step.Earns 0 (vm.checkMultiSigByMatching code signatures keys) := by
  unfold checkMultiSigByMatching
  cases some : signatures.any fun signature => !signature.isEmpty with
  | true =>
      have matching := matchKeys_earns vm 1 code signatures keys fun signature _ key =>
        checkSignature_earns vm signature key code
      rw [Int.natCast_one, Int.one_mul] at matching
      refine .settle matching fun valid =>
        .after (demandEmpty_earns vm valid signatures) fun _ => ?_
      exact .before (countSigChecks_earns vm keys.length) fun _ => .pure valid
  | false =>
      have matching := matchKeys_earns vm 0 code signatures keys fun signature member key =>
        checkSignature_earns_of_isEmpty vm
          (by simpa using List.any_eq_false.mp some signature member) key code
      rw [Int.natCast_zero, Int.zero_mul] at matching
      exact .after matching fun valid => .after (demandEmpty_earns vm valid signatures)
        fun _ => .pure valid

private theorem demandAll_earns (code : Script) (pairs : List (Bytes × Bytes)) :
    Step.Earns 0 (vm.demandAll code pairs) := by
  induction pairs with
  | nil => exact .pure ()
  | cons pair pairs inductionHypothesis =>
      simp only [demandAll, Sequencing.throw_bind]
      refine .after (.ofExcept _) fun _ => .after (.ofExcept _) fun _ => ?_
      refine .settle (checkSignature_earns vm pair.1 pair.2 code) fun valid => .ite (.throw _) ?_
      exact .before (countSigChecks_earns vm 1) fun _ => inductionHypothesis

private theorem checkMultiSigBySelection_earns (code : Script) (bitfield : Bytes)
    (signatures keys : List Bytes) :
    Step.Earns 0 (vm.checkMultiSigBySelection code bitfield signatures keys) := by
  simp only [checkMultiSigBySelection, Sequencing.throw_bind]
  refine .after (.ofExcept _) fun bits => .ite (.throw _) ?_
  exact .after (demandAll_earns vm code _) fun _ => .pure true

private theorem verdict_earns (code : Script) (check : SignatureCheck) :
    Step.Earns 0 (vm.verdict code check) := by
  cases check with
  | single signature key =>
      refine .after (.ofExcept _) fun _ => .after (.ofExcept _) fun _ => ?_
      cases empty : signature.isEmpty with
      | true =>
          refine .after (checkSignature_earns_of_isEmpty vm empty key code) fun valid => ?_
          exact .after (demandEmpty_earns vm valid [signature]) fun _ => .pure valid
      | false =>
          -- The question is asked first and counted afterwards.
          refine .settle (checkSignature_earns vm signature key code) fun valid => ?_
          refine .after (demandEmpty_earns vm valid [signature]) fun _ => ?_
          exact .before (countSigChecks_earns vm 1) fun _ => .pure valid
  | data signature message key =>
      refine .after (.ofExcept _) fun _ => .after (.ofExcept _) fun _ => ?_
      refine .after (checkDataSignature_earns vm signature message key) fun valid => ?_
      exact .after (demandEmpty_earns vm valid [signature]) fun _ => .pure valid
  | matching signatures keys => exact checkMultiSigByMatching_earns vm code signatures keys
  | selection bitfield signatures keys =>
      exact checkMultiSigBySelection_earns vm code bitfield signatures keys

/-- No operation asks more questions than it counts checks. -/
private theorem covers_earning : Covers earning vm where
  toCorresponds := corresponds_earning vm
  checks instruction checksSignature executing next machine _ after performed := by
    rcases exists_finds_of_perform checksSignature performed with
      ⟨check, rest, required, failure, opCount, valid, middle, _, stops, judged, concluded⟩
    have judging := verdict_earns vm _ check _ valid middle judged
    have concludes : earning.holds (vm.conclude required failure rest valid) _ :=
      (corresponds_earning vm).toWorksAlike.conclude rest valid required failure stops
    rw [Int.add_zero] at judging
    exact Int.le_trans judging (concludes middle () after concluded)

variable {vm}

/-- Evaluating a script counts a check for each question that it asks. -/
theorem surplus_le_of_evaluate {script : Script} {session after : Session}
    (evaluated : vm.evaluate script session = .ok () after) : session.surplus ≤ after.surplus := by
  have covers := covers_earning vm
  rcases evaluate_eq_ok_iff.mp evaluated with ⟨_, machine, ran, rfl⟩
  exact covers.run rfl script _ _ _ ran

end Interpreter

end SpendRules

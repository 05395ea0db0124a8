import SpendRules.Proofs.Machine.Tightening
import SpendRules.Proofs.Machine.Unsigned
import SpendRules.Verification

namespace SpendRules

/-!
# Verification and its rules

What a successful verification consists of is stated first: both scripts are
evaluated, the top element is true, and then either the end is clean, or the
locking script commits to another script and this one is exempt or is evaluated
with a clean end.  From this it follows which rules only ever make a
verification fail.
-/

/-- There is a top element, and it is true. -/
def Session.HasTrueTop (session : Session) : Prop :=
  ∃ top rest, session.stack = top :: rest ∧ ScriptNumber.isTrue top = true

/-- The spending was verified. -/
def Outcome.IsAccepted (outcome : Outcome) : Prop :=
  ∃ metrics, outcome.result = .ok metrics

instance (outcome : Outcome) : Decidable outcome.IsAccepted :=
  match result : outcome.result with
  | .ok metrics => isTrue ⟨metrics, result⟩
  | .error _ => isFalse fun ⟨_, accepted⟩ => nomatch result.symm.trans accepted

namespace Interpreter

/-- What is demanded of a session when all scripts have run. -/
structure EndsClean (vm : Interpreter) (scriptSig : Script) (session : Session) : Prop where
  cleanStack : vm.enables .cleanStack = true -> session.stack.length = 1
  sigChecks : vm.enables .inputSigChecks = true ->
    session.metrics.sigChecks * 43 ≤ scriptSig.bytes.length + 60

/-- Both scripts are evaluated, from one session over a second to a third one,
and the top element is true in the end. -/
structure Unlocks (vm : Interpreter) (scriptSig scriptPubkey : Script)
    (session unlocked locked : Session) : Prop where
  pushOnly : vm.enables .sigPushOnly = true -> scriptSig.isPushOnly = true
  unlocking : vm.evaluate scriptSig session = .ok () unlocked
  locking : vm.evaluate scriptPubkey unlocked = .ok () locked
  isTrue : locked.HasTrueTop

variable {vm : Interpreter} {scriptSig scriptPubkey : Script} {session after : Session}

theorem demandTrue_eq_ok_iff :
    demandTrue session = .ok () after ↔ session.HasTrueTop ∧ session = after := by
  rw [demandTrue, Sequencing.get_bind]
  unfold Session.HasTrueTop
  cases session.stack with
  | nil =>
      constructor
      · intro impossible
        exact (Sequencing.throw_ne_ok impossible).elim
      · rintro ⟨⟨_, _, impossible, _⟩, _⟩
        cases impossible
  | cons top rest =>
      by_cases holds : ScriptNumber.isTrue top = true
      · dsimp only
        rw [if_pos holds, Sequencing.pure_eq_ok_iff]
        exact ⟨fun same => ⟨⟨top, rest, rfl, holds⟩, same.2⟩, fun demanded => ⟨rfl, demanded.2⟩⟩
      · dsimp only
        rw [if_neg holds]
        constructor
        · intro impossible
          exact (Sequencing.throw_ne_ok impossible).elim
        · rintro ⟨⟨_, _, same, isTrue⟩, _⟩
          cases same
          exact (holds isTrue).elim

private theorem demandCleanEnd_eq_ok_iff :
    vm.demandCleanEnd scriptSig session = .ok () after ↔
      vm.EndsClean scriptSig session ∧ session = after := by
  simp only [demandCleanEnd, Sequencing.throw_bind]
  rw [Sequencing.get_bind, Sequencing.unless_eq_ok_iff, Sequencing.unless_eq_ok_iff,
    Sequencing.pure_eq_ok_iff]
  constructor
  · rintro ⟨stack, checks, _, same⟩
    refine ⟨⟨?_, ?_⟩, same⟩
    · intro active
      simpa [active] using stack
    · intro active
      simpa [active] using checks
  · rintro ⟨⟨stack, checks⟩, same⟩
    refine ⟨?_, ?_, rfl, same⟩
    · simpa using stack
    · simpa using checks

/-- The top element is evaluated as a script on the elements below it, and
leaves a true element on top. -/
theorem evaluateRedeemScript_eq_ok_iff :
    vm.evaluateRedeemScript 1 session = .ok () after ↔
      ∃ serialized rest, session.stack = serialized :: rest ∧
      vm.evaluate { bytes := serialized } { session with stack := rest } = .ok () after ∧
      after.HasTrueTop := by
  have alone : ¬ (1 : Nat) > 1 := Nat.lt_irrefl 1
  simp only [evaluateRedeemScript, Sequencing.throw_bind]
  rw [if_neg alone, Sequencing.get_bind]
  cases session.stack with
  | nil =>
      constructor
      · intro impossible
        exact (Sequencing.throw_ne_ok impossible).elim
      · rintro ⟨_, _, impossible, _⟩
        cases impossible
  | cons serialized rest =>
      dsimp only
      rw [Sequencing.modify_bind, Sequencing.bind_eq_ok_iff]
      constructor
      · rintro ⟨_, ended, evaluated, demanded⟩
        rcases demandTrue_eq_ok_iff.mp demanded with ⟨isTrue, rfl⟩
        exact ⟨serialized, rest, rfl, evaluated, isTrue⟩
      · rintro ⟨_, _, same, evaluated, isTrue⟩
        cases same
        exact ⟨(), after, evaluated, demandTrue_eq_ok_iff.mpr ⟨isTrue, rfl⟩⟩

/-- What comes after both scripts have run, from the stack that the unlocking
script left and the session that the locking script left. -/
inductive Concludes (vm : Interpreter) (scriptSig scriptPubkey : Script) (unlocked : List Bytes)
    (locked : Session) :
    Session -> Prop where
  /-- There is no other script. -/
  | plain (direct : vm.commitsToScript scriptPubkey = false)
    (clean : vm.EndsClean scriptSig locked) :
    Concludes vm scriptSig scriptPubkey unlocked locked locked
  /-- The other script is exempt. -/
  | recovery (commits : vm.commitsToScript scriptPubkey = true)
    (pushOnly : scriptSig.isPushOnly = true)
    (exempt : vm.isRecovery unlocked = true) :
    Concludes vm scriptSig scriptPubkey unlocked locked { locked with stack := unlocked }
  /-- The other script is evaluated. -/
  | redeem (after : Session) (commits : vm.commitsToScript scriptPubkey = true)
    (pushOnly : scriptSig.isPushOnly = true) (subject : vm.isRecovery unlocked = false)
    (redeemed : vm.evaluateRedeemScript 1 { locked with stack := unlocked } = .ok () after)
    (clean : vm.EndsClean scriptSig after) :
    Concludes vm scriptSig scriptPubkey unlocked locked after

/-- A verification succeeds exactly when both scripts are evaluated to a true
element and what comes after them succeeds. -/
theorem verifyScript_eq_ok_iff :
    vm.verifyScript scriptSig scriptPubkey session = .ok () after ↔
      ∃ unlocked locked, vm.Unlocks scriptSig scriptPubkey session unlocked locked ∧
        vm.Concludes scriptSig scriptPubkey unlocked.stack locked after := by
  simp only [verifyScript, verifyScriptWith, Sequencing.throw_bind]
  rw [Sequencing.unless_eq_ok_iff, Sequencing.bind_eq_ok_iff]
  constructor
  · rintro ⟨permitted, _, unlocked, unlocking, rest⟩
    rw [Sequencing.get_bind] at rest
    rcases Sequencing.bind_eq_ok_iff.mp rest with ⟨_, locked, locking, rest⟩
    rcases Sequencing.bind_eq_ok_iff.mp rest with ⟨_, _, demanded, rest⟩
    rcases demandTrue_eq_ok_iff.mp demanded with ⟨isTrue, rfl⟩
    refine ⟨unlocked, locked, ⟨?_, unlocking, locking, isTrue⟩, ?_⟩
    · intro active
      simpa [active] using permitted
    · cases commits : vm.commitsToScript scriptPubkey with
      | false =>
          rw [commits, if_neg Bool.false_ne_true] at rest
          rcases demandCleanEnd_eq_ok_iff.mp rest with ⟨clean, rfl⟩
          exact .plain commits clean
      | true =>
          rw [commits, if_pos rfl, Sequencing.unless_eq_ok_iff, Bool.not_eq_true',
            Bool.not_eq_false] at rest
          rcases rest with ⟨pushOnly, rest⟩
          rw [Sequencing.modify_bind] at rest
          cases exempt : vm.isRecovery unlocked.stack with
          | true =>
              rw [exempt, if_pos rfl] at rest
              rw [← (Sequencing.pure_eq_ok_iff.mp rest).2]
              exact .recovery commits pushOnly exempt
          | false =>
              rw [exempt, if_neg Bool.false_ne_true] at rest
              rcases Sequencing.bind_eq_ok_iff.mp rest with ⟨_, _, redeemed, rest⟩
              rcases demandCleanEnd_eq_ok_iff.mp rest with ⟨clean, rfl⟩
              exact .redeem _ commits pushOnly exempt redeemed clean
  · rintro ⟨unlocked, locked, unlocks, concludes⟩
    refine ⟨?_, (), unlocked, unlocks.unlocking, ?_⟩
    · simpa using unlocks.pushOnly
    rw [Sequencing.get_bind]
    refine Sequencing.bind_eq_ok_iff.mpr ⟨(), locked, unlocks.locking, ?_⟩
    refine Sequencing.bind_eq_ok_iff.mpr
      ⟨(), locked, demandTrue_eq_ok_iff.mpr ⟨unlocks.isTrue, rfl⟩, ?_⟩
    cases concludes with
    | plain direct clean =>
        rw [direct, if_neg Bool.false_ne_true]
        exact demandCleanEnd_eq_ok_iff.mpr ⟨clean, rfl⟩
    | recovery commits pushOnly exempt =>
        rw [commits, if_pos rfl, pushOnly, Sequencing.unless_eq_ok_iff]
        refine ⟨Bool.false_ne_true, ?_⟩
        rw [Sequencing.modify_bind, exempt, if_pos rfl]
        rfl
    | redeem after commits pushOnly subject redeemed clean =>
        rw [commits, if_pos rfl, pushOnly, Sequencing.unless_eq_ok_iff]
        refine ⟨Bool.false_ne_true, ?_⟩
        rw [Sequencing.modify_bind, subject, if_neg Bool.false_ne_true]
        exact Sequencing.bind_eq_ok_iff.mpr
          ⟨(), after, redeemed, demandCleanEnd_eq_ok_iff.mpr ⟨clean, rfl⟩⟩

theorem verify_eq_ok_iff {metrics : Metrics} :
    (vm.verify scriptSig scriptPubkey).result = .ok metrics ↔
      ∃ after, vm.verifyScript scriptSig scriptPubkey {} = .ok () after ∧
      after.metrics = metrics := by
  unfold verify
  cases vm.verifyScript scriptSig scriptPubkey {} with
  | ok value session =>
      constructor
      · intro same
        cases same
        exact ⟨session, rfl, rfl⟩
      · rintro ⟨_, same, rfl⟩
        cases same
        rfl
  | error failure session =>
      constructor
      · intro impossible
        cases impossible
      · rintro ⟨_, impossible, _⟩
        cases impossible

/-- A success hands on the work done and the questions that were asked. -/
theorem verify_of_ok (verified : vm.verifyScript scriptSig scriptPubkey {} = .ok () after) :
    vm.verify scriptSig scriptPubkey =
      { result := .ok after.metrics, calls := after.calls.reverse } := by
  unfold verify
  rw [verified]

end Interpreter

/-- With a context, a spending is verified by running its scripts. -/
theorem verifySpending_eq {configuration : Configuration} {verifier : SignatureVerifier}
    {tx : Transaction} {index : Nat} {spent : SpentOutputs} {context : SpendingContext}
    (found : SpendingContext.of tx index spent = .ok context) (flags : UInt32) :
    verifySpending configuration verifier tx index spent flags =
      (configuration.interpreter flags verifier (some context)).verify context.input.script
        context.spent.script := by
  unfold verifySpending
  rw [found]

end SpendRules

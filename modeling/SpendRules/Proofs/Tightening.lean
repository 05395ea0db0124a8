import SpendRules.Proofs.Verification

namespace SpendRules

/-!
# Asking for more rules

A caller who asks for further rules can only turn acceptance into refusal, if
the rules are restrictions, new forms of commitments to scripts, or meanings
for operations that were let pass before.  Everything that is accepted with the
further rules is accepted without them.

The two verifications need not agree on more than acceptance.  Without the
exemption from running a witness program is refused where it is accepted with
it, and a locking script that commits to another script is a plain comparison
of hashes under rules that do not know it.
-/

namespace Interpreter

variable {vm : Interpreter} {rules : RuleSet} {scriptSig scriptPubkey : Script}

/-- A locking script that commits to another script checks no signature. -/
theorem checksNothing_of_commitsToScript (commits : vm.commitsToScript scriptPubkey = true) :
    scriptPubkey.ChecksNothing := by
  unfold commitsToScript at commits
  rw [Bool.and_eq_true, Bool.or_eq_true, Bool.and_eq_true] at commits
  rcases commits.2 with shape | ⟨_, shape⟩
  · exact Script.checksNothing_of_isPayToScriptHash shape
  · exact Script.checksNothing_of_isPayToScriptHash32 shape

/-- As long as the unlocking script only pushes and the locking script commits
to another script, no signature has been checked. -/
theorem Unlocks.sigChecks_eq_zero {unlocked locked : Session}
    (unlocks : vm.Unlocks scriptSig scriptPubkey {} unlocked locked)
    (pushOnly : scriptSig.isPushOnly = true) (commits : vm.commitsToScript scriptPubkey = true) :
    locked.metrics.sigChecks = 0 := by
  have locking := evaluate_of_checksNothing (checksNothing_of_commitsToScript commits)
    unlocks.locking
  have unlocking := evaluate_of_checksNothing (Script.checksNothing_of_isPushOnly pushOnly)
    unlocks.unlocking
  exact locking.1.trans unlocking.1

section

variable (tightens : rules.Tightens vm.rules)

include tightens

private theorem unlocks_of_tightens {session unlocked locked : Session}
    (unlocks : (vm.withRules rules).Unlocks scriptSig scriptPubkey session unlocked locked) :
    vm.Unlocks scriptSig scriptPubkey session unlocked locked where
  pushOnly active := unlocks.pushOnly (tightens.keeps _ active)
  unlocking := evaluate_of_tightens tightens unlocks.unlocking
  locking := evaluate_of_tightens tightens unlocks.locking
  isTrue := unlocks.isTrue

private theorem endsClean_of_tightens {session : Session}
    (clean : (vm.withRules rules).EndsClean scriptSig session) :
    vm.EndsClean scriptSig session where
  cleanStack active := clean.cleanStack (tightens.keeps _ active)
  sigChecks active := clean.sigChecks (tightens.keeps _ active)

private theorem commitsToScript_of_tightens (commits : vm.commitsToScript scriptPubkey = true) :
    (vm.withRules rules).commitsToScript scriptPubkey = true := by
  unfold commitsToScript at commits ⊢
  rw [Bool.and_eq_true, Bool.or_eq_true, Bool.and_eq_true] at commits ⊢
  exact ⟨tightens.keeps _ commits.1, commits.2.imp_right (And.imp_left (tightens.keeps _))⟩

private theorem isRecovery_of_tightens {stack : List Bytes}
    (exempt : (vm.withRules rules).isRecovery stack = true) : vm.isRecovery stack = true := by
  unfold isRecovery at exempt ⊢
  rw [Bool.and_eq_true, Bool.not_eq_true'] at exempt ⊢
  exact ⟨tightens.eq_false_of_eq_false exempt.1, exempt.2⟩

private theorem evaluateRedeemScript_of_tightens {session after : Session}
    (redeemed : (vm.withRules rules).evaluateRedeemScript 1 session = .ok () after) :
    vm.evaluateRedeemScript 1 session = .ok () after := by
  rcases evaluateRedeemScript_eq_ok_iff.mp redeemed with
    ⟨serialized, rest, stack, evaluated, isTrue⟩
  exact evaluateRedeemScript_eq_ok_iff.mpr
    ⟨serialized, rest, stack, evaluate_of_tightens tightens evaluated, isTrue⟩

/-- Where both sets of rules see the same commitment, the looser rules conclude
too.  They may do so by exempting a script that the stricter rules run. -/
private theorem concludes_of_commits {unlocked : List Bytes} {locked after : Session}
    (commits : vm.commitsToScript scriptPubkey = true)
    (concludes : (vm.withRules rules).Concludes scriptSig scriptPubkey unlocked locked after) :
    ∃ other, vm.Concludes scriptSig scriptPubkey unlocked locked other := by
  cases concludes with
  | plain direct clean =>
      rw [commitsToScript_of_tightens tightens commits] at direct
      cases direct
  | recovery _ pushOnly exempt =>
      exact ⟨_, .recovery commits pushOnly (isRecovery_of_tightens tightens exempt)⟩
  | redeem after _ pushOnly _ redeemed clean =>
      cases exempt : vm.isRecovery unlocked with
      | true => exact ⟨_, .recovery commits pushOnly exempt⟩
      | false =>
          exact ⟨after, .redeem after commits pushOnly exempt
            (evaluateRedeemScript_of_tightens tightens redeemed)
              (endsClean_of_tightens tightens clean)⟩

/-- What is verified under the stricter rules is verified under the looser
ones, provided that both see the same commitments to scripts or that the looser
ones do not ask for a clean stack. -/
theorem verifyScript_of_tightens {after : Session}
    (lenient :
      (forall rule, rule ∈ Rule.scriptHashes -> rules.enables rule = vm.rules.enables rule) ∨
        vm.rules.enables .cleanStack = false)
    (verified : (vm.withRules rules).verifyScript scriptSig scriptPubkey {} = .ok () after) :
    ∃ other, vm.verifyScript scriptSig scriptPubkey {} = .ok () other := by
  rcases verifyScript_eq_ok_iff.mp verified with ⟨unlocked, locked, strict, concludes⟩
  have unlocks := unlocks_of_tightens tightens strict
  suffices ended : ∃ other, vm.Concludes scriptSig scriptPubkey unlocked.stack locked other by
    rcases ended with ⟨other, concludes⟩
    exact ⟨other, verifyScript_eq_ok_iff.mpr ⟨unlocked, locked, unlocks, concludes⟩⟩
  cases commits : vm.commitsToScript scriptPubkey with
  | true => exact concludes_of_commits tightens commits concludes
  | false =>
      -- Only the stricter rules see a commitment, so the looser ones stop before it is followed.
      have unfollowed (pushOnly : scriptSig.isPushOnly = true)
          (seen : (vm.withRules rules).commitsToScript scriptPubkey = true) :
          ∃ other, vm.Concludes scriptSig scriptPubkey unlocked.stack locked other := by
        rcases lenient with same | permitted
        · have known := same .payToScriptHash (by decide)
          have known32 := same .payToScriptHash32 (by decide)
          change (rules.enables _ && (_ || (rules.enables _ && _))) = true at seen
          change (vm.rules.enables _ && (_ || (vm.rules.enables _ && _))) = false at commits
          rw [known, known32, commits] at seen
          cases seen
        · refine ⟨locked, .plain commits ⟨?_, ?_⟩⟩
          · intro active
            rw [show vm.enables .cleanStack = false from permitted] at active
            cases active
          · intro _
            rw [strict.sigChecks_eq_zero pushOnly seen, Nat.zero_mul]
            exact Nat.zero_le _
      cases concludes with
      | plain _ clean => exact ⟨_, .plain commits (endsClean_of_tightens tightens clean)⟩
      | recovery seen pushOnly _ => exact unfollowed pushOnly seen
      | redeem _ seen pushOnly _ _ _ => exact unfollowed pushOnly seen

end

theorem verify_isAccepted_iff :
    (vm.verify scriptSig scriptPubkey).IsAccepted ↔
      ∃ after, vm.verifyScript scriptSig scriptPubkey {} = .ok () after := by
  constructor
  · rintro ⟨metrics, accepted⟩
    rcases verify_eq_ok_iff.mp accepted with ⟨after, verified, _⟩
    exact ⟨after, verified⟩
  · rintro ⟨after, verified⟩
    exact ⟨after.metrics, verify_eq_ok_iff.mpr ⟨after, verified, rfl⟩⟩

end Interpreter

/-- A spending that is accepted with further rules is accepted without them,
under the conditions on these rules that make them tighten the others. -/
theorem isAccepted_of_tightens {configuration : Configuration} {verifier : SignatureVerifier}
    {tx : Transaction} {index : Nat} {spent : SpentOutputs} {flags more : UInt32}
    (tightens : (configuration.activeRules more).Tightens (configuration.activeRules flags))
    (lenient :
      (forall rule, rule ∈ Rule.scriptHashes ->
        (configuration.activeRules more).enables rule =
          (configuration.activeRules flags).enables rule) ∨
        (configuration.activeRules flags).enables .cleanStack = false)
    (accepted : (verifySpending configuration verifier tx index spent more).IsAccepted) :
    (verifySpending configuration verifier tx index spent flags).IsAccepted := by
  revert accepted
  unfold verifySpending
  cases SpendingContext.of tx index spent with
  | error failure => exact id
  | ok context =>
      intro accepted
      rcases Interpreter.verify_isAccepted_iff.mp accepted with ⟨after, verified⟩
      have verified : ((configuration.interpreter flags verifier (some context)).withRules
          (configuration.activeRules more)).verifyScript context.input.script
            context.spent.script {} =
            .ok () after := verified
      exact Interpreter.verify_isAccepted_iff.mpr
        (Interpreter.verifyScript_of_tightens tightens lenient verified)

/-- Restrictions only restrict: whatever is accepted with some of them is
accepted without them. -/
theorem isAccepted_of_restricted (configuration : Configuration) (verifier : SignatureVerifier)
    (tx : Transaction) (index : Nat) (spent : SpentOutputs) (flags added : UInt32)
    (restrictions : added &&& Rule.maskOf Rule.restrictions = added)
    (accepted : (verifySpending configuration verifier tx index spent
      (flags ||| added)).IsAccepted) :
    (verifySpending configuration verifier tx index spent flags).IsAccepted := by
  refine isAccepted_of_tightens ?_ (Or.inl ?_) accepted
  · apply configuration.tightens_activeRules
    intro rule active
    exact Or.inl (configuration.mem_of_enables_activeRules restrictions active)
  · intro rule scriptHash
    apply configuration.enables_activeRules_or_eq flags restrictions
    revert scriptHash
    cases rule <;> decide

/-- A transaction with one input and the given unlocking script. -/
private def unlockedWith (unlocking : Bytes) : Transaction where
  version := 2
  inputs := [
    { prevout := { hash := Hash256.zero, index := 7 }
      script := { bytes := unlocking }
      sequence := 0 }]
  outputs := []
  lockTime := 3

/-- The output with the given locking script. -/
private def lockedWith (locking : Bytes) : SpentOutputs :=
  .single (Output.plain 1000 { bytes := locking })

/-- A locking script that demands that the check of a signature fails. -/
private def demandFailedCheck : Bytes :=
  0x21 :: 0x02 :: (List.replicate 32 0x11 ++ [0xac, 0x91])

/-- An empty signature fails its check in a way that all restrictions admit. -/
theorem isAccepted_emptySignature :
    (verifySpending {} Secp256k1.verifier (unlockedWith [0x00]) 0 (lockedWith demandFailedCheck)
        (0 ||| Rule.maskOf Rule.restrictions)).IsAccepted ∧
      (verifySpending {} Secp256k1.verifier (unlockedWith [0x00]) 0 (lockedWith demandFailedCheck)
        0).IsAccepted := by
  have accepted : (verifySpending {} Secp256k1.verifier (unlockedWith [0x00]) 0
      (lockedWith demandFailedCheck) (0 ||| Rule.maskOf Rule.restrictions)).IsAccepted := by
    decide +kernel
  exact ⟨accepted, isAccepted_of_restricted {} _ _ 0 _ 0 _ (by decide) accepted⟩

/-- Soft forks only restrict.  Unless a clean stack is asked for, this holds of
following commitments to scripts; unless operations reserved for upgrades are
discouraged, it holds of checking lock times. -/
theorem isAccepted_of_softFork (configuration : Configuration) (verifier : SignatureVerifier)
    (tx : Transaction) (index : Nat) (spent : SpentOutputs) (flags added : UInt32)
    (softFork :
      (flags &&& Rule.cleanStack.publicMask = 0 ∧
        added &&& Rule.maskOf Rule.scriptHashes = added) ∨
      (flags &&& Rule.discourageUpgradableNops.publicMask = 0 ∧
        added &&& Rule.maskOf Rule.lockTimes = added))
    (accepted : (verifySpending configuration verifier tx index spent
      (flags ||| added)).IsAccepted) :
    (verifySpending configuration verifier tx index spent flags).IsAccepted := by
  rcases softFork with ⟨unset, scriptHashes⟩ | ⟨unset, lockTimes⟩
  · refine isAccepted_of_tightens ?_
      (Or.inr (configuration.enables_activeRules_of_unset unset)) accepted
    apply configuration.tightens_activeRules
    intro rule active
    exact Or.inr (Or.inl (configuration.mem_of_enables_activeRules scriptHashes active))
  · have permitted := configuration.enables_activeRules_of_unset unset
    refine isAccepted_of_tightens ?_ (Or.inl ?_) accepted
    · apply configuration.tightens_activeRules
      intro rule active
      exact Or.inr (Or.inr ⟨configuration.mem_of_enables_activeRules lockTimes active, permitted⟩)
    · intro rule scriptHash
      apply configuration.enables_activeRules_or_eq flags lockTimes
      revert scriptHash
      cases rule <;> decide

/-- The locking script that commits to a script. -/
private def commitTo (redeem : Bytes) : Bytes :=
  0xa9 :: 0x14 :: (Hash.Algorithm.hash160.apply redeem ++ [0x87])

/-- The script that is committed to is supplied and succeeds, and the number
three is a lock time that the transaction has reached. -/
theorem isAccepted_softForks :
    (verifySpending {} Secp256k1.verifier (unlockedWith [0x01, 0x51]) 0
        (lockedWith (commitTo [0x51])) 0).IsAccepted ∧
      (verifySpending {} Secp256k1.verifier (unlockedWith [0x53]) 0 (lockedWith [0xb1])
        0).IsAccepted := by
  have committed : (verifySpending {} Secp256k1.verifier (unlockedWith [0x01, 0x51]) 0
      (lockedWith (commitTo [0x51])) (0 ||| Rule.maskOf Rule.scriptHashes)).IsAccepted := by
    decide +kernel
  have reached : (verifySpending {} Secp256k1.verifier (unlockedWith [0x53]) 0 (lockedWith [0xb1])
      (0 ||| Rule.maskOf Rule.lockTimes)).IsAccepted := by decide +kernel
  exact ⟨isAccepted_of_softFork {} _ _ 0 _ 0 _ (Or.inl ⟨by decide, by decide⟩) committed,
    isAccepted_of_softFork {} _ _ 0 _ 0 _ (Or.inr ⟨by decide, by decide⟩) reached⟩

end SpendRules

import SpendRules.Proofs.Machine.HashComparison
import SpendRules.Proofs.Machine.Stopping
import SpendRules.Proofs.Verification

namespace SpendRules

/-- The hash that a script holds which compares a hash. -/
def Script.embeddedHash (script : Script) : Bytes :=
  (script.bytes.drop 2).dropLast

namespace Interpreter

/-!
# Spending what a script hash locks

A locking script can commit to the hash of another script.  A verification then
succeeds only for a spender who supplied a script with this hash, and this
script is evaluated on whatever else was supplied, unless it is exempt.

The supplied script is the last element that the unlocking script pushed, on a
copy of the stack that is kept while the locking script runs.  Since the locking
script has hashed the top of this stack, there is such an element.
-/

/-- The spender supplied the script that the locking script commits to, and this
script is exempt or accepts what else was supplied. -/
structure Redeems (vm : Interpreter) (scriptSig scriptPubkey : Script) (unlocked locked : Session)
    (supplied : Bytes) (rest : List Bytes) : Prop where
  pushOnly : scriptSig.isPushOnly = true
  unlocking : vm.evaluate scriptSig {} = .ok () unlocked
  stack_eq : unlocked.stack = supplied :: rest
  hash160_eq : scriptPubkey.isPayToScriptHash = true ->
    vm.hashes .hash160 supplied = scriptPubkey.embeddedHash
  hash256_eq : scriptPubkey.isPayToScriptHash32 = true ->
    vm.hashes .hash256 supplied = scriptPubkey.embeddedHash
  locking : vm.evaluate scriptPubkey unlocked = .ok () locked
  accepted : (vm.enables .disallowSegwitRecovery = false ∧ rest = [] ∧
      Script.isWitnessProgram { bytes := supplied } = true) ∨
    ∃ after, vm.evaluate { bytes := supplied } { locked with stack := rest } = .ok () after ∧
      after.HasTrueTop

variable {vm : Interpreter} {scriptSig scriptPubkey : Script}

/-- The locking script compares the hash of the top element. -/
private theorem hash_of_locking {hashOpcode : UInt8} {hashLength : Nat} {algorithm : Hash.Algorithm}
    (indirect : ¬ hashOpcode ≤ Opcode.pushBytesMax)
    (unannounced : Instruction.lengthWidth? hashOpcode = none)
    (hashes : Opcode.operation hashOpcode = .hash algorithm) (short : hashLength ≤ 75)
    (compares : Script.isHashComparison hashOpcode hashLength scriptPubkey.bytes = true)
    {unlocked locked : Session} (locking : vm.evaluate scriptPubkey unlocked = .ok () locked)
    (isTrue : locked.HasTrueTop) :
    ∃ supplied rest, unlocked.stack = supplied :: rest ∧
      vm.hashes algorithm supplied = scriptPubkey.embeddedHash := by
  rcases scriptPubkey with ⟨bytes⟩
  rcases Script.isHashComparison_iff.mp compares with ⟨hash, rfl, rfl⟩
  have embedded : Script.embeddedHash
      { bytes := hashOpcode :: UInt8.ofNat hash.length :: (hash ++ [Opcode.equal]) } =
      hash := List.dropLast_concat
  rw [embedded]
  rcases evaluate_hashComparison indirect unannounced hashes short locking with
    ⟨supplied, rest, found, left⟩
  refine ⟨supplied, rest, found, ?_⟩
  rcases isTrue with ⟨top, below, found, isTrue⟩
  rw [left] at found
  cases found
  by_cases same : vm.hashes algorithm supplied = hash
  · exact same
  · rw [if_neg (by simpa using same)] at isTrue
    cases isTrue

section

variable {unlocked locked : Session} (locking : vm.evaluate scriptPubkey unlocked = .ok () locked)
  (isTrue : locked.HasTrueTop)

include locking isTrue

private theorem hash160_of_locking (pays : scriptPubkey.isPayToScriptHash = true) :
    ∃ supplied rest, unlocked.stack = supplied :: rest ∧
      vm.hashes .hash160 supplied = scriptPubkey.embeddedHash :=
  hash_of_locking (by decide) (by decide) rfl (by decide) pays locking isTrue

private theorem hash256_of_locking (pays : scriptPubkey.isPayToScriptHash32 = true) :
    ∃ supplied rest, unlocked.stack = supplied :: rest ∧
      vm.hashes .hash256 supplied = scriptPubkey.embeddedHash :=
  hash_of_locking (by decide) (by decide) rfl (by decide) pays locking isTrue

private theorem supplied_of_locking (commits : vm.commitsToScript scriptPubkey = true) :
    ∃ supplied rest, unlocked.stack = supplied :: rest := by
  unfold commitsToScript at commits
  rw [Bool.and_eq_true, Bool.or_eq_true, Bool.and_eq_true] at commits
  rcases commits.2 with pays | ⟨_, pays⟩
  · rcases hash160_of_locking locking isTrue pays with ⟨supplied, rest, found, _⟩
    exact ⟨supplied, rest, found⟩
  · rcases hash256_of_locking locking isTrue pays with ⟨supplied, rest, found, _⟩
    exact ⟨supplied, rest, found⟩

end

private theorem isRecovery_iff {supplied : Bytes} {rest : List Bytes} :
    vm.isRecovery (supplied :: rest) = true ↔
      vm.enables .disallowSegwitRecovery = false ∧ rest = [] ∧
        Script.isWitnessProgram { bytes := supplied } = true := by
  unfold isRecovery
  cases rest with
  | nil => simp
  | cons element rest => simp

theorem redeems_of_verifyScript (commits : vm.commitsToScript scriptPubkey = true) {after : Session}
    (verified : vm.verifyScript scriptSig scriptPubkey {} = .ok () after) :
    ∃ unlocked locked supplied rest,
      vm.Redeems scriptSig scriptPubkey unlocked locked supplied rest := by
  rcases verifyScript_eq_ok_iff.mp verified with ⟨unlocked, locked, unlocks, concludes⟩
  rcases supplied_of_locking unlocks.locking unlocks.isTrue commits with ⟨supplied, rest, found⟩
  refine ⟨unlocked, locked, supplied, rest, ?_, unlocks.unlocking, found, ?_, ?_,
    unlocks.locking, ?_⟩
  · cases concludes with
    | plain direct _ => exact (Bool.false_ne_true (direct.symm.trans commits)).elim
    | recovery _ pushOnly _ => exact pushOnly
    | redeem _ _ pushOnly _ _ _ => exact pushOnly
  · intro pays
    rcases hash160_of_locking unlocks.locking unlocks.isTrue pays with ⟨_, _, same, hash_eq⟩
    cases found.symm.trans same
    exact hash_eq
  · intro pays
    rcases hash256_of_locking unlocks.locking unlocks.isTrue pays with ⟨_, _, same, hash_eq⟩
    cases found.symm.trans same
    exact hash_eq
  · cases concludes with
    | plain direct _ => exact (Bool.false_ne_true (direct.symm.trans commits)).elim
    | recovery _ _ exempt =>
        rw [found] at exempt
        exact Or.inl (isRecovery_iff.mp exempt)
    | redeem _ _ _ _ redeemed _ =>
        rcases evaluateRedeemScript_eq_ok_iff.mp redeemed with ⟨_, _, same, evaluated, isTrue⟩
        cases found.symm.trans same
        exact Or.inr ⟨after, evaluated, isTrue⟩

/-! ## What cannot happen -/

private theorem demandTrue_failsOnly :
    Sequencing.FailsOnly (· ≠ ScriptError.p2shRecursion) demandTrue := by
  refine .bind .get fun session => ?_
  cases session.stack with
  | nil => exact .throw (by decide)
  | cons top rest => exact .ite (.pure ()) (.throw (by decide))

private theorem demandCleanEnd_failsOnly (vm : Interpreter) :
    Sequencing.FailsOnly (· ≠ ScriptError.p2shRecursion) (vm.demandCleanEnd scriptSig) := by
  simp only [demandCleanEnd, Sequencing.throw_bind]
  exact .bind .get fun session => .ite (.throw (by decide)) (.ite (.throw (by decide)) (.pure ()))

private theorem evaluate_ne_recursion (vm : Interpreter) (script : Script) :
    Sequencing.FailsOnly (· ≠ ScriptError.p2shRecursion) (vm.evaluate script) := by
  refine (evaluate_failsOnly vm script).mono ?_
  rintro failure stops rfl
  cases stops

/-- A supplied script is not evaluated from within another supplied script. -/
theorem verifyScript_failsOnly (vm : Interpreter) (scriptSig scriptPubkey : Script) :
    Sequencing.FailsOnly (· ≠ ScriptError.p2shRecursion)
      (vm.verifyScript scriptSig scriptPubkey) := by
  have redeem : Sequencing.FailsOnly (· ≠ ScriptError.p2shRecursion)
      (vm.evaluateRedeemScript 1) := by
    have alone : ¬ (1 : Nat) > 1 := Nat.lt_irrefl 1
    simp only [evaluateRedeemScript, Sequencing.throw_bind]
    rw [if_neg alone]
    refine .bind .get fun session => ?_
    cases session.stack with
    | nil => exact .throw (by decide)
    | cons supplied rest =>
        exact .bind (.modify _) fun _ => .bind (evaluate_ne_recursion vm _) fun _ =>
          demandTrue_failsOnly
  simp only [verifyScript, verifyScriptWith, Sequencing.throw_bind]
  refine .ite (.throw (by decide))
    (.bind (evaluate_ne_recursion vm _) fun _ => .bind .get fun unlocked => ?_)
  refine .bind (evaluate_ne_recursion vm _) fun _ => .bind demandTrue_failsOnly fun _ => ?_
  refine .ite (.ite (.throw (by decide)) (.bind (.modify _) fun _ => ?_))
    (demandCleanEnd_failsOnly vm)
  exact .ite (.pure ()) (.bind redeem fun _ => demandCleanEnd_failsOnly vm)

/-- Whatever a step would do on an empty stack in place of evaluating the
supplied script, it is not asked to. -/
theorem verifyScriptWith_eq {redeem : EStateM ScriptError Session Unit}
    (same : forall session : Session, session.stack ≠ [] ->
      redeem session = vm.evaluateRedeemScript 1 session)
    (session : Session) :
    vm.verifyScriptWith redeem scriptSig scriptPubkey session =
      vm.verifyScript scriptSig scriptPubkey session := by
  simp only [verifyScript, verifyScriptWith, Sequencing.throw_bind]
  by_cases refused : (vm.enables .sigPushOnly && !scriptSig.isPushOnly) = true
  · rw [if_pos refused, if_pos refused]
  rw [if_neg refused, if_neg refused]
  refine Sequencing.bind_congr fun _ unlocked _ => ?_
  rw [Sequencing.get_bind, Sequencing.get_bind]
  refine Sequencing.bind_congr fun _ locked locking =>
    Sequencing.bind_congr fun _ demanding demanded => ?_
  rcases demandTrue_eq_ok_iff.mp demanded with ⟨isTrue, rfl⟩
  cases commits : vm.commitsToScript scriptPubkey with
  | false => rfl
  | true =>
      rw [if_pos rfl, if_pos rfl]
      by_cases pushOnly : (!scriptSig.isPushOnly) = true
      · rw [if_pos pushOnly, if_pos pushOnly]
      rw [if_neg pushOnly, if_neg pushOnly, Sequencing.modify_bind, Sequencing.modify_bind]
      by_cases exempt : vm.isRecovery unlocked.stack = true
      · rw [if_pos exempt, if_pos exempt]
      rw [if_neg exempt, if_neg exempt]
      have supplied : unlocked.stack ≠ [] := by
        rcases supplied_of_locking locking isTrue commits with ⟨supplied, rest, found⟩
        rw [found]
        exact List.cons_ne_nil supplied rest
      have entered := same { locked with stack := unlocked.stack } supplied
      change EStateM.bind redeem _ _ = EStateM.bind (vm.evaluateRedeemScript 1) _ _
      unfold EStateM.bind
      rw [entered]

/-- A verification against the hash of a script succeeds only for a spender who
supplied this script, and only if the script is exempt or accepts what else was
supplied.  No verification evaluates a supplied script from within another one,
and none looks for one on an empty stack. -/
theorem verify_redeems (vm : Interpreter) (scriptSig scriptPubkey : Script) :
    (forall metrics, vm.enables .payToScriptHash = true ->
      (scriptPubkey.isPayToScriptHash = true ∨
        (vm.enables .payToScriptHash32 = true ∧ scriptPubkey.isPayToScriptHash32 = true)) ->
      (vm.verify scriptSig scriptPubkey).result = .ok metrics ->
        ∃ unlocked locked supplied rest,
          vm.Redeems scriptSig scriptPubkey unlocked locked supplied rest) ∧
    (vm.verify scriptSig scriptPubkey).result ≠ .error .p2shRecursion ∧
    (forall redeem : EStateM ScriptError Session Unit,
      (forall session : Session, session.stack ≠ [] ->
          redeem session = vm.evaluateRedeemScript 1 session) ->
        vm.verifyScriptWith redeem scriptSig scriptPubkey {} =
          vm.verifyScript scriptSig scriptPubkey {}) := by
  refine ⟨?_, ?_, fun redeem same => verifyScriptWith_eq same {}⟩
  · intro metrics active pays verified
    rcases verify_eq_ok_iff.mp verified with ⟨after, verified, _⟩
    refine redeems_of_verifyScript ?_ verified
    rw [commitsToScript, Bool.and_eq_true, Bool.or_eq_true, Bool.and_eq_true]
    exact ⟨active, pays⟩
  · unfold verify
    cases result : vm.verifyScript scriptSig scriptPubkey {} with
    | ok value session => exact fun impossible => nomatch impossible
    | error failure session =>
        intro same
        cases same
        exact verifyScript_failsOnly vm scriptSig scriptPubkey _ _ _ result rfl

/-- An interpreter that knows the shorter hash of a script. -/
private def knowingScriptHashes : Interpreter :=
  Configuration.interpreter {} Rule.payToScriptHash.publicMask Secp256k1.verifier none

/-- The locking script that holds the hash of a script that pushes one. -/
private def lockedByHashOfOne : Script where
  bytes := 0xa9 :: 0x14 :: (Hash.Algorithm.hash160.apply [0x51] ++ [0x87])

/-- A script that pushes one is supplied, and leaves a true element. -/
theorem verify_redeems_one :
    ∃ metrics unlocked locked supplied rest,
      (knowingScriptHashes.verify { bytes := [0x01, 0x51] } lockedByHashOfOne).result =
          .ok metrics ∧
        knowingScriptHashes.Redeems { bytes := [0x01, 0x51] } lockedByHashOfOne unlocked locked
          supplied rest := by
  have accepted : (knowingScriptHashes.verify { bytes := [0x01, 0x51] }
      lockedByHashOfOne).IsAccepted := by
    decide +kernel
  have pays : lockedByHashOfOne.isPayToScriptHash = true := by decide +kernel
  rcases accepted with ⟨metrics, verified⟩
  have redeems := (verify_redeems knowingScriptHashes { bytes := [0x01, 0x51] } lockedByHashOfOne).1
    metrics (by decide)
    (Or.inl pays) verified
  rcases redeems with ⟨unlocked, locked, supplied, rest, redeems⟩
  exact ⟨metrics, unlocked, locked, supplied, rest, verified, redeems⟩

end Interpreter
end SpendRules

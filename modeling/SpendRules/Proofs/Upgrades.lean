import SpendRules.Proofs.Machine.Upgrades
import SpendRules.Proofs.Tightening

namespace SpendRules

/-!
# Asking for upgrades

A spending that is accepted stays so when a caller asks for upgrades.  It even
has the same outcome: the same work was done, and the verifier was asked the
same questions.  This does not hold of everything that can be spent.  An
upgrade adds the token of the spent output to what signatures sign, so a coin
with a token that was signed for without it is lost.  And it bounds numbers, so
values beyond the signed words can no longer be asked for.
-/

namespace Interpreter

/-- The machines that the instructions of a verification start on, in all its
scripts. -/
def verificationMachines (vm : Interpreter) (scriptSig scriptPubkey : Script) : List Machine :=
  vm.machines scriptSig {} ++
    match vm.evaluate scriptSig {} with
    | .error _ _ => []
    | .ok _ unlocked =>
      vm.machines scriptPubkey unlocked ++
        match vm.evaluate scriptPubkey unlocked with
        | .error _ _ => []
        | .ok _ locked =>
          match unlocked.stack with
          | [] => []
          | serialized :: rest =>
            if vm.commitsToScript scriptPubkey && !vm.isRecovery unlocked.stack then
              vm.machines { bytes := serialized } { locked with stack := rest }
            else []

section

variable {vm : Interpreter} {later : RuleSet} (upgrades : later.Upgrades vm.rules)
  {scriptSig scriptPubkey : Script}

include upgrades

private theorem commitsToScript_of_upgrades :
    (vm.withRules later).commitsToScript scriptPubkey = vm.commitsToScript scriptPubkey := by
  unfold commitsToScript
  rw [← enables_of_upgrades upgrades (by decide), ← enables_of_upgrades upgrades (by decide)]

private theorem isRecovery_of_upgrades (stack : List Bytes) :
    (vm.withRules later).isRecovery stack = vm.isRecovery stack := by
  unfold isRecovery
  rw [← enables_of_upgrades upgrades (by decide)]

private theorem endsClean_of_upgrades {session : Session} (clean : vm.EndsClean scriptSig session) :
    (vm.withRules later).EndsClean scriptSig session where
  cleanStack active := clean.cleanStack ((upgrades.same .cleanStack (by decide)).symm.trans active)
  sigChecks active :=
    clean.sigChecks ((upgrades.same .inputSigChecks (by decide)).symm.trans active)

variable (suits : forall context, vm.context = some context -> SuitsUpgrades context)
  (fits : forall machine, machine ∈ vm.verificationMachines scriptSig scriptPubkey ->
    machine.FitsMemory)

include suits fits

/-- A verification that succeeds in memory succeeds under upgraded rules, with
the same result.  It consists of up to three evaluations, and each of them
does. -/
theorem verifyScript_of_upgrades {after : Session}
    (verified : vm.verifyScript scriptSig scriptPubkey {} = .ok () after) :
    (vm.withRules later).verifyScript scriptSig scriptPubkey {} = .ok () after := by
  rcases verifyScript_eq_ok_iff.mp verified with ⟨unlocked, locked, unlocks, concludes⟩
  unfold verificationMachines at fits
  rw [unlocks.unlocking] at fits
  dsimp only at fits
  rw [unlocks.locking] at fits
  dsimp only at fits
  have fitsUnlocking {machine : Machine} (member : machine ∈ vm.machines scriptSig {}) :
      machine.FitsMemory :=
    fits machine (List.mem_append_left _ member)
  have fitsLocking {machine : Machine} (member : machine ∈ vm.machines scriptPubkey unlocked) :
      machine.FitsMemory :=
    fits machine (List.mem_append_right _ (List.mem_append_left _ member))
  refine verifyScript_eq_ok_iff.mpr ⟨unlocked, locked, ?_, ?_⟩
  · exact {
      pushOnly := fun active =>
        unlocks.pushOnly ((upgrades.same .sigPushOnly (by decide)).symm.trans active)
      unlocking := evaluate_of_upgrades upgrades suits (fun _ => fitsUnlocking) unlocks.unlocking
      locking := evaluate_of_upgrades upgrades suits (fun _ => fitsLocking) unlocks.locking
      isTrue := unlocks.isTrue }
  · cases concludes with
    | plain direct clean =>
        exact .plain ((commitsToScript_of_upgrades upgrades).trans direct)
          (endsClean_of_upgrades upgrades clean)
    | recovery commits pushOnly exempt =>
        exact .recovery ((commitsToScript_of_upgrades upgrades).trans commits) pushOnly
          ((isRecovery_of_upgrades upgrades _).trans exempt)
    | redeem after commits pushOnly subject redeemed clean =>
        refine .redeem after ((commitsToScript_of_upgrades upgrades).trans commits) pushOnly
          ((isRecovery_of_upgrades upgrades _).trans subject) ?_
            (endsClean_of_upgrades upgrades clean)
        rcases evaluateRedeemScript_eq_ok_iff.mp redeemed with
          ⟨serialized, rest, stack, evaluated, isTrue⟩
        refine evaluateRedeemScript_eq_ok_iff.mpr ⟨serialized, rest, stack, ?_, isTrue⟩
        refine evaluate_of_upgrades upgrades suits (fun machine member => ?_) evaluated
        apply fits machine
        apply List.mem_append_right
        apply List.mem_append_right
        change unlocked.stack = serialized :: rest at stack
        rw [subject, commits, stack]
        exact member

end

end Interpreter

/-- The machines that the instructions of the scripts of a spending start
on. -/
def spendingMachines (configuration : Configuration) (verifier : SignatureVerifier)
    (tx : Transaction) (index : Nat) (spent : SpentOutputs) (flags : UInt32) : List Machine :=
  match SpendingContext.of tx index spent with
  | .error _ => []
  | .ok context =>
    (configuration.interpreter flags verifier (some context)).verificationMachines
      context.input.script
      context.spent.script

/-- Upgrades do not change the outcome of a spending that is accepted without
them, if the spent output carries no token, and if values and amounts are
signed words.  All lists are assumed to be shorter than half the range of a
word, as lists in memory are: those of the transaction, and the stack and its
elements during the run. -/
theorem verifySpending_of_upgraded (configuration : Configuration) (verifier : SignatureVerifier)
    (tx : Transaction) (index : Nat) (spent : SpentOutputs) (flags added : UInt32)
    (upgrades : added &&& Rule.maskOf Rule.upgrades = added)
    (bare : forall output, spent.output? index = some output -> output.token = none)
    (words : forall output, output ∈ tx.outputs ++ spent.outputs -> output.HasSignedWords)
    (inputCount : tx.inputs.length < 2 ^ 63) (outputCount : tx.outputs.length < 2 ^ 63)
    (fits : forall machine,
      machine ∈ spendingMachines configuration verifier tx index spent flags -> machine.FitsMemory)
    (accepted : (verifySpending configuration verifier tx index spent flags).IsAccepted) :
    verifySpending configuration verifier tx index spent (flags ||| added) =
      verifySpending configuration verifier tx index spent flags := by
  cases found : SpendingContext.of tx index spent with
  | error failure =>
      unfold verifySpending
      rw [found]
  | ok context =>
      rcases SpendingContext.eq_of_of found with ⟨rfl, ownOutput, supplied⟩
      unfold spendingMachines at fits
      rw [found] at fits
      rw [verifySpending_eq found] at accepted ⊢
      rw [verifySpending_eq found]
      have suits : Interpreter.SuitsUpgrades context :=
        ⟨⟨inputCount, outputCount, fun output member => words output (supplied output member)⟩,
          bare _ ownOutput⟩
      rcases Interpreter.verify_isAccepted_iff.mp accepted with ⟨after, verified⟩
      have upgradesRules : (configuration.activeRules (flags ||| added)).Upgrades
          (configuration.interpreter flags verifier (some context)).rules :=
        configuration.upgrades_activeRules flags upgrades
      have upgraded := Interpreter.verifyScript_of_upgrades upgradesRules
        (fun _ own => Option.some.inj own ▸ suits)
        fits verified
      change ((configuration.interpreter flags verifier (some context)).withRules
        (configuration.activeRules (flags ||| added))).verify _ _ = _
      unfold Interpreter.verify
      rw [upgraded, verified]

/-- A transaction that spends an output with the numbers three and four. -/
private def spendingThreeFour : Transaction where
  version := 2
  inputs := [{ prevout := OutPoint.null, script := { bytes := [0x53, 0x54] }, sequence := 0 }]
  outputs := [Output.plain 900 { bytes := [0x51] }]
  lockTime := 0

/-- A locking script that demands two numbers with the sum seven, and that the
sum is one byte long. -/
private def demandSeven : Output :=
  Output.plain 1000 { bytes := [0x93, 0x82, 0x51, 0x9d, 0x57, 0x9c] }

/-- The sum of three and four is computed under the oldest rules and under all
upgrades. -/
theorem verifySpending_threeFour :
    (verifySpending {} Secp256k1.verifier spendingThreeFour 0 (.single demandSeven) 0).IsAccepted ∧
      verifySpending {} Secp256k1.verifier spendingThreeFour 0 (.single demandSeven)
        (0 ||| Rule.maskOf Rule.upgrades) =
        verifySpending {} Secp256k1.verifier spendingThreeFour 0 (.single demandSeven) 0 := by
  have accepted : (verifySpending {} Secp256k1.verifier spendingThreeFour 0
      (.single demandSeven) 0).IsAccepted := by
    decide +kernel
  have fits : forall machine,
      machine ∈ spendingMachines {} Secp256k1.verifier spendingThreeFour 0
          (.single demandSeven) 0 ->
        machine.FitsMemory := by decide +kernel
  refine ⟨accepted, verifySpending_of_upgraded {} _ _ 0 _ 0 _ (by decide) ?_ (by decide) (by decide)
    (by decide) fits accepted⟩
  intro output found
  cases found
  rfl

end SpendRules

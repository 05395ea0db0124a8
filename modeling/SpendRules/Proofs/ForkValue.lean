import SpendRules.Proofs.Machine.ForkValue
import SpendRules.Proofs.Verification

namespace SpendRules

/-!
# The number of the chain in a verification

As long as signatures may not commit to the chain and hash types are checked,
the outcome of a verification is the same for every chain, down to the questions
that the verifier is asked.

The check of hash types is needed.  Without it, a signature that asks for the
chain where the rules do not know of this is not refused.  It is then checked
against the older message, whose hash type holds the number of the chain.  So a
signature that is valid for one chain is invalid for another one.
-/

namespace Interpreter

variable {vm : Interpreter} (strict : vm.rules.enables .strictEncoding = true)
  (inactive : vm.rules.enables .forkId = false)

include strict inactive

/-- All scripts of a verification are evaluated in the same way, and nothing
else looks at the number. -/
private theorem verify_withForkId (forkId : UInt32) (scriptSig scriptPubkey : Script) :
    (vm.withForkId forkId).verify scriptSig scriptPubkey = vm.verify scriptSig scriptPubkey := by
  have redeem : (vm.withForkId forkId).evaluateRedeemScript 1 = vm.evaluateRedeemScript 1 := by
    unfold evaluateRedeemScript
    rw [evaluate_withForkId strict inactive]
  have verified : (vm.withForkId forkId).verifyScript scriptSig scriptPubkey =
      vm.verifyScript scriptSig scriptPubkey := by
    unfold verifyScript verifyScriptWith
    rw [evaluate_withForkId strict inactive, redeem]
    rfl
  unfold verify
  rw [verified]

end Interpreter

/-- Two configurations that differ in the number of the chain give the same
outcome, if signatures may not commit to the chain and hash types are
checked. -/
theorem verifySpending_forkId_irrelevant (configuration : Configuration) (forkId : UInt32)
    (verifier : SignatureVerifier) (tx : Transaction) (index : Nat) (spent : SpentOutputs)
    (flags : UInt32)
    (inactive : (configuration.activeRules flags).enables .forkId = false)
    (strict : (configuration.activeRules flags).enables .strictEncoding = true) :
    verifySpending { configuration with forkId := forkId } verifier tx index spent flags =
      verifySpending configuration verifier tx index spent flags := by
  cases found : SpendingContext.of tx index spent with
  | error failure =>
      unfold verifySpending
      rw [found]
  | ok context =>
      rw [verifySpending_eq found, verifySpending_eq found]
      let vm := configuration.interpreter flags verifier (some context)
      have same := @Interpreter.verify_withForkId vm strict inactive forkId
      exact same context.input.script context.spent.script

/-- The shortest canonical signature, with the given hash type. -/
private def signatureOf (hashByte : UInt8) : Bytes :=
  [0x30, 6, 2, 1, 1, 2, 1, 1, hashByte]

/-- A transaction that spends an output with such a signature. -/
private def spendingSigned (hashByte : UInt8) : Transaction where
  version := 2
  inputs :=
    [{ prevout := OutPoint.null, script := { bytes := 9 :: signatureOf hashByte }, sequence := 0 }]
  outputs := [Output.plain 900 { bytes := [0x51] }]
  lockTime := 0

/-- A locking script that checks a signature. -/
private def demandSigned : Script where
  bytes := 0x21 :: 0x02 :: (List.replicate 32 0x11 ++ [0xac])

/-- A verifier that accepts signatures of the older message with the hash type
in a single byte, and no others. -/
private def acceptsPlain (hashByte : UInt8) : SignatureVerifier := fun query =>
  .ok (query.digest ==
    SigHash.legacyDigest (spendingSigned hashByte) 0 demandSigned { raw := hashByte.toUInt32 })

/-- The verification of such a spending for a chain. -/
private def verifySigned (forkId : UInt32) (hashByte : UInt8) (flags : UInt32) : Outcome :=
  verifySpending { forkId := forkId } (acceptsPlain hashByte) (spendingSigned hashByte) 0
    (.single (Output.plain 1000 demandSigned)) flags

/-- With the check of hash types, a signature of all outputs is accepted for
every chain. -/
theorem verifySpending_forkId_irrelevant_allOutputs :
    (verifySigned 0 0x01 Rule.strictEncoding.publicMask).IsAccepted ∧
      verifySigned 1 0x01 Rule.strictEncoding.publicMask =
        verifySigned 0 0x01 Rule.strictEncoding.publicMask :=
  ⟨by decide +kernel,
    verifySpending_forkId_irrelevant { forkId := 0 } 1 _ _ 0 _ _ (by decide) (by decide)⟩

/-- Without the check of hash types, the number of the chain decides on a
signature that asks for the chain. -/
theorem verifySpending_forkId_relevant :
    (({} : Configuration).activeRules 0).enables .forkId = false ∧
      (verifySigned 0 0x41 0).IsAccepted ∧
      ¬ (verifySigned 1 0x41 0).IsAccepted := by
  decide +kernel

end SpendRules

import SpendRules.Proofs.Machine.KnownOutputs
import SpendRules.Proofs.Tightening

namespace SpendRules

/-!
# Supplying more outputs

A caller can supply the output that one input spends, or the outputs that all
inputs spend.  With more outputs, a verification that needed them can succeed
or fail in its own way.  All other verifications come out the same, down to the
work done and the questions put to the verifier.
-/

namespace Interpreter

variable (vm : Interpreter) {context other : SpendingContext}

private theorem evaluateRedeemScript_of_isPartOf (part : context.IsPartOf other) :
    Sequencing.AgreeUnless .contextUnavailable ((vm.withContext context).evaluateRedeemScript 1)
      ((vm.withContext other).evaluateRedeemScript 1) := by
  simp only [evaluateRedeemScript, Sequencing.throw_bind]
  refine .ite (.refl _) ((Sequencing.AgreeUnless.refl _).bind fun session => ?_)
  cases session.stack with
  | nil => exact .refl _
  | cons serialized rest =>
      refine (Sequencing.AgreeUnless.refl _).bind fun _ => ?_
      exact (evaluate_of_isPartOf vm part _).bind fun _ => .refl _

/-- All scripts of a verification agree, and so do the demands between them,
which do not look at the context. -/
theorem verifyScript_of_isPartOf (part : context.IsPartOf other) (scriptSig scriptPubkey : Script) :
    Sequencing.AgreeUnless .contextUnavailable
      ((vm.withContext context).verifyScript scriptSig scriptPubkey)
      ((vm.withContext other).verifyScript scriptSig scriptPubkey) := by
  simp only [verifyScript, verifyScriptWith, Sequencing.throw_bind]
  refine .ite (.refl _) ((evaluate_of_isPartOf vm part scriptSig).bind fun _ => ?_)
  refine (Sequencing.AgreeUnless.refl _).bind fun unlocked => ?_
  refine (evaluate_of_isPartOf vm part scriptPubkey).bind fun _ =>
    (Sequencing.AgreeUnless.refl _).bind fun _ => ?_
  refine .ite (.ite (.refl _) ((Sequencing.AgreeUnless.refl _).bind fun _ => .ite (.refl _) ?_))
    (.refl _)
  exact (evaluateRedeemScript_of_isPartOf vm part).bind fun _ => .refl _

/-- The outcome of a verification is the same with both contexts, unless the
lesser one is found wanting. -/
theorem verify_of_isPartOf (part : context.IsPartOf other) (scriptSig scriptPubkey : Script) :
    ((vm.withContext context).verify scriptSig scriptPubkey).result = .error .contextUnavailable ∨
      (vm.withContext context).verify scriptSig scriptPubkey =
        (vm.withContext other).verify scriptSig scriptPubkey := by
  unfold verify
  rcases verifyScript_of_isPartOf vm part scriptSig scriptPubkey {} with ⟨after, failed⟩ | same
  · rw [failed]
    exact Or.inl rfl
  · rw [same]
    exact Or.inr rfl

end Interpreter

/-- Supplying all outputs does not change the outcome of a verification with
one output, unless this one failed for want of outputs. -/
theorem verifySpending_all_eq_single (configuration : Configuration) (verifier : SignatureVerifier)
    (tx : Transaction) (index : Nat) (outputs : List Output) (flags : UInt32)
    (same : outputs.length = tx.inputs.length) (bound : index < outputs.length)
    (answered : (verifySpending configuration verifier tx index (.single outputs[index])
      flags).result ≠ .error .contextUnavailable) :
    verifySpending configuration verifier tx index (.all outputs) flags =
      verifySpending configuration verifier tx index (.single outputs[index]) flags := by
  rcases SpendingContext.exists_isPartOf same bound with ⟨context, other, single, all, part⟩
  rw [verifySpending_eq single] at answered
  rw [verifySpending_eq single, verifySpending_eq all, ← part.input, ← part.spent]
  have agree := Interpreter.verify_of_isPartOf (configuration.interpreter flags verifier none) part
    context.input.script context.spent.script
  exact (agree.resolve_left answered).symm

/-- A transaction with two inputs and no outputs. -/
private def spendingTwo : Transaction where
  version := 2
  inputs := List.replicate 2 { prevout := OutPoint.null, script := { bytes := [] }, sequence := 0 }
  outputs := []
  lockTime := 0

/-- Two outputs of a thousand, the first one with a locking script. -/
private def twoThousand (locking : Bytes) : List Output :=
  [Output.plain 1000 { bytes := locking }, Output.plain 1000 { bytes := [] }]

/-- A locking script that demands that the output of the first input is worth a
thousand. -/
private def demandThousand : Bytes :=
  [0x00, 0xc6, 0x02, 0xe8, 0x03, 0x9c]

/-- The first script demands that its own output is worth a thousand.  One
output is enough to tell. -/
theorem verifySpending_all_ownValue :
    (verifySpending {} Secp256k1.verifier spendingTwo 0 (.single (twoThousand demandThousand)[0])
        Rule.nativeIntrospection.publicMask).IsAccepted ∧
      verifySpending {} Secp256k1.verifier spendingTwo 0 (.all (twoThousand demandThousand))
          Rule.nativeIntrospection.publicMask =
        verifySpending {} Secp256k1.verifier spendingTwo 0 (.single (twoThousand demandThousand)[0])
          Rule.nativeIntrospection.publicMask := by
  have accepted : (verifySpending {} Secp256k1.verifier spendingTwo 0
      (.single (twoThousand demandThousand)[0])
      Rule.nativeIntrospection.publicMask).IsAccepted := by decide +kernel
  refine ⟨accepted, verifySpending_all_eq_single {} _ _ 0 _ _ rfl (by decide) ?_⟩
  rcases accepted with ⟨metrics, accepted⟩
  rw [accepted]
  exact nofun

end SpendRules

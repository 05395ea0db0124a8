import SpendRules.Proofs.Machine.Agreement
import SpendRules.Proofs.Machine.SignatureChecks
import SpendRules.Proofs.Signature.Digest

namespace SpendRules
namespace Interpreter

/-!
# Running with more known outputs

The same script is run with two contexts of one spending, the second of which
knows more about the outputs that are spent.  There are two places where the
difference shows: a question about the output that another input spends, and a
signature that commits to all outputs that are spent.  In both places the
lesser context fails if the output is not known to it.  No operation goes on
after a failure, in particular no multiple signature tries another key.  So a
run that does not fail in this way does not see the difference.
-/

/-- The interpreter with a context. -/
def withContext (vm : Interpreter) (context : SpendingContext) : Interpreter :=
  { vm with context := some context }

section

variable (vm : Interpreter) {context other : SpendingContext} (part : context.IsPartOf other)

include part

private theorem alike_of_isPartOf : Alike (vm.withContext context) (vm.withContext other) where
  limits := rfl
  hashes := rfl
  isMetered := rfl
  unlockingLength := by
    change context.input.script.bytes.length = other.input.script.bytes.length
    rw [part.input]

private theorem computesAlike_of_isPartOf :
    ComputesAlike (Comparison.agreement .contextUnavailable) (vm.withContext context)
      (vm.withContext other) where
  toWorksAlike := .of_refl rfl (alike_of_isPartOf vm part) .refl fun _ => .refl _
  integers64 := rfl

private theorem contextsAlike_of_isPartOf :
    (vm.withContext context).context.Rel (ContextsAlike (Comparison.agreement .contextUnavailable))
      (vm.withContext other).context :=
  .some ⟨part.tx, part.index, fun index => Comparison.agreement_ofExcept (part.spentBy index)⟩

private theorem corresponds_of_isPartOf :
    Corresponds (Comparison.agreement .contextUnavailable) (vm.withContext context)
      (vm.withContext other) := by
  let c := Comparison.agreement .contextUnavailable
  have alike := computesAlike_of_isPartOf vm part
  have contexts := contextsAlike_of_isPartOf vm part
  have operand : c.holds (vm.withContext context).lockTimeOperand
      (vm.withContext other).lockTimeOperand := .refl _
  have reserved : c.holds (vm.withContext context).reservedForUpgrade
      (vm.withContext other).reservedForUpgrade :=
    .refl _
  exact ⟨⟨alike, alike.pushInstructionData rfl, reserved,
    checkLockTime_holds c contexts operand reserved rfl,
    checkSequence_holds c contexts operand reserved rfl, alike.introspect contexts rfl
      fun _ _ _ _ => alike.pushNumber _,
    alike.introspectToken contexts rfl fun _ _ _ _ => alike.pushNumber _⟩, .of_refl rfl .refl⟩

private theorem checkSignature_of_isPartOf (signature key : Bytes) (code : Script) :
    (Comparison.agreement .contextUnavailable).holds
      ((vm.withContext context).checkSignature signature key code)
      ((vm.withContext other).checkSignature signature key code) := by
  let c := Comparison.agreement .contextUnavailable
  unfold checkSignature
  cases signature.getLast? with
  | none => exact c.pure false
  | some hashByte =>
      -- Both contexts are at hand, so the first step that can differ is the digest.
      change c.holds (Step.ofExcept
        (SigHash.digest context code (vm.hashTypeOf hashByte) vm.rules) >>= _)
        (Step.ofExcept (SigHash.digest other code (vm.hashTypeOf hashByte) vm.rules) >>= _)
      exact c.bind (Comparison.agreement_ofExcept (SigHash.digest_of_isPartOf part _ _ _))
        fun _ => .refl _

private theorem checksAlike_of_isPartOf :
    ChecksAlike (Comparison.agreement .contextUnavailable) (vm.withContext context)
      (vm.withContext other) where
  toWorksAlike := (computesAlike_of_isPartOf vm part).toWorksAlike
  toFormsAlike := FormsAlike.refl _ vm.rules
  withoutSignature := rfl
  schnorrMultisig := rfl
  ask _ := .refl _
  checkSignature signature key code _ := checkSignature_of_isPartOf vm part signature key code
  demandEmpty _ _ := .refl _
  countSigChecks _ := .refl _

/-- A script that is evaluated with both contexts has the same result, unless
the lesser context is found wanting. -/
theorem evaluate_of_isPartOf (script : Script) :
    Sequencing.AgreeUnless .contextUnavailable ((vm.withContext context).evaluate script)
      ((vm.withContext other).evaluate script) := by
  have checks := checksAlike_of_isPartOf vm part
  have corresponds := corresponds_of_isPartOf vm part
  have agree := corresponds.run rfl script fun instruction _ =>
    checks.comparesChecks corresponds.allChanges.toAdmitsCounting instruction
  intro session
  unfold evaluate
  by_cases long : script.bytes.length > vm.limits.maxScriptSize.toNat
  · exact Or.inr ((if_pos long).trans (if_pos long).symm)
  · rcases agree { toSession := session, script := script } with ⟨after, failed⟩ | same
    · refine Or.inl ⟨after.toSession, (if_neg long).trans ?_⟩
      rw [failed]
    · refine Or.inr ((if_neg long).trans (Eq.trans ?_ (if_neg long).symm))
      rw [same]

end

end Interpreter
end SpendRules

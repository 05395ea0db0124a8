import SpendRules.Proofs.Machine.SignatureChecks

namespace SpendRules
namespace Interpreter

/-!
# The number of the chain

The number of the chain enters a run at a single place, in the hash type of a
transaction signature, and only if the signature asks to commit to the chain.
Where such signatures are refused for their form, no run depends on the number.

Without strict encoding nothing is refused for its hash type.  A signature that
asks for the chain is then checked with the number in its hash type, whether or
not the rules let signatures commit to the chain.
-/

/-- The interpreter for another chain. -/
def withForkId (vm : Interpreter) (forkId : UInt32) : Interpreter :=
  { vm with forkId := forkId }

/-- Everything but the check of a transaction signature is the same for every
chain. -/
private theorem corresponds_withForkId (vm : Interpreter) (forkId : UInt32) :
    Corresponds Comparison.equality (vm.withForkId forkId) vm where
  limits := rfl
  hashes := rfl
  isMetered := rfl
  unlockingLength := rfl
  changes := (Comparison.AdmitsChanges.of_refl rfl fun _ => rfl).toAdmitsStackChanges
  charge _ := rfl
  chargeHash _ _ := rfl
  operand _ := rfl
  integers64 := rfl
  pushInstructionData _ := rfl
  reservedForUpgrade := rfl
  checkLockTime := rfl
  checkSequence := rfl
  introspect _ := rfl
  introspectToken _ _ := rfl
  allChanges := .of_refl rfl fun _ => rfl

variable {vm : Interpreter} (strict : vm.rules.enables .strictEncoding = true)
  (inactive : vm.rules.enables .forkId = false)

include strict inactive

/-- An admitted signature does not ask for the chain. -/
private theorem hashTypeOf_of_admitted {signature : Bytes} {hashByte : UInt8}
    (admitted : Signature.checkTransaction signature vm.rules = .ok ())
    (last : signature.getLast? = some hashByte) :
    vm.hashTypeOf hashByte = { raw := hashByte.toUInt32 } := by
  have chain := (Signature.forms_of_checkTransaction strict last admitted).2
  rw [inactive] at chain
  exact if_neg (ne_true_of_eq_false chain)

private theorem checkSignature_withForkId {signature : Bytes} (key : Bytes) (code : Script)
    (forkId : UInt32) (admitted : Signature.checkTransaction signature vm.rules = .ok ()) :
    (vm.withForkId forkId).checkSignature signature key code =
      vm.checkSignature signature key code := by
  unfold checkSignature
  cases last : signature.getLast? with
  | none => rfl
  | some hashByte =>
      have own := hashTypeOf_of_admitted strict inactive admitted last
      have other := @hashTypeOf_of_admitted (vm.withForkId forkId) strict inactive _ _ admitted last
      dsimp only
      rw [own, other]
      rfl

private theorem checksAlike_withForkId (forkId : UInt32) :
    ChecksAlike Comparison.equality (vm.withForkId forkId) vm where
  toWorksAlike := (corresponds_withForkId vm forkId).toWorksAlike
  toFormsAlike := FormsAlike.refl _ vm.rules
  withoutSignature := rfl
  schnorrMultisig := rfl
  ask _ := rfl
  checkSignature _ key code admitted :=
    checkSignature_withForkId strict inactive key code forkId admitted
  demandEmpty _ _ := rfl
  countSigChecks _ := rfl

/-- Every script is evaluated in the same way for every chain. -/
theorem evaluate_withForkId (forkId : UInt32) : (vm.withForkId forkId).evaluate = vm.evaluate := by
  have checks := checksAlike_withForkId strict inactive forkId
  funext script session
  have corresponds := corresponds_withForkId vm forkId
  have same := corresponds.run rfl script fun instruction _ =>
    checks.comparesChecks corresponds.allChanges.toAdmitsCounting instruction
  have ran : (vm.withForkId forkId).run script = vm.run script := same
  unfold evaluate
  rw [ran]
  rfl

end Interpreter
end SpendRules

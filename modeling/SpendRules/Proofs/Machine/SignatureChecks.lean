import SpendRules.Proofs.Machine.Run
import SpendRules.Proofs.Signature.Encoding

namespace SpendRules
namespace Interpreter

/-!
# Signature checks under two interpreters

The three operations that check signatures are put together from a few steps:
checks of forms, single questions to the verifier, the demand that failed
checks have empty signatures, and the count of checks.  A comparison that holds
between these steps holds between the operations.  In a multiple signature the
steps are repeated, by recursion over the keys in the older way and over the
selected pairs in the newer way.
-/

/-- A comparison holds between the checks of forms under two sets of rules. -/
structure FormsAlike (c : Comparison) (rules rules' : RuleSet) : Prop where
  checkTransaction : forall signature,
    c.holds (Step.ofExcept (Signature.checkTransaction signature rules))
      (Step.ofExcept (Signature.checkTransaction signature rules'))
  checkTransactionEcdsa : forall signature,
    c.holds (Step.ofExcept (Signature.checkTransactionEcdsa signature rules))
      (Step.ofExcept (Signature.checkTransactionEcdsa signature rules'))
  checkTransactionSchnorr : forall signature,
    c.holds (Step.ofExcept (Signature.checkTransactionSchnorr signature rules))
      (Step.ofExcept (Signature.checkTransactionSchnorr signature rules'))
  checkData : forall signature,
    c.holds (Step.ofExcept (Signature.checkData signature rules))
      (Step.ofExcept (Signature.checkData signature rules'))
  checkKey : forall key,
    c.holds (Step.ofExcept (Signature.checkKey key rules))
      (Step.ofExcept (Signature.checkKey key rules'))

theorem FormsAlike.refl (c : Comparison) (rules : RuleSet) : FormsAlike c rules rules where
  checkTransaction signature := c.ofExcept (Signature.stopsSteps_checkTransaction signature rules)
  checkTransactionEcdsa signature :=
    c.ofExcept (Signature.stopsSteps_checkTransactionEcdsa signature rules)
  checkTransactionSchnorr signature :=
    c.ofExcept (Signature.stopsSteps_checkTransactionSchnorr signature rules)
  checkData signature := c.ofExcept (Signature.stopsSteps_checkData signature rules)
  checkKey key := c.ofExcept (Signature.stopsSteps_checkKey rules key)

/-- Where one set of rules admits the forms that another one admits, so do the
checks of a machine. -/
theorem formsAlike_of_admitsForms {strict loose : RuleSet}
    (admits : Signature.AdmitsForms strict loose) :
    FormsAlike Comparison.admission strict loose where
  checkTransaction _ := Comparison.admission_ofExcept fun _ checked =>
    admits.checkTransaction checked
  checkTransactionEcdsa _ := Comparison.admission_ofExcept fun _ checked =>
    admits.checkTransactionEcdsa checked
  checkTransactionSchnorr _ := Comparison.admission_ofExcept fun _ checked =>
    admits.checkTransactionSchnorr checked
  checkData _ := Comparison.admission_ofExcept fun _ checked => admits.checkData checked
  checkKey key := Comparison.admission_ofExcept fun _ checked => admits.key key checked

/-- Whether a signature stays in the script code depends on a single rule. -/
theorem withoutSignature_congr {vm vm' : Interpreter}
    (forkId : vm.enables .forkId = vm'.enables .forkId) :
    vm.withoutSignature = vm'.withoutSignature := by
  funext code signature
  unfold withoutSignature
  rw [forkId]

namespace WorksAlike

variable {c : Comparison} {vm vm' : Interpreter} (alike : WorksAlike c vm vm')

include alike

/-- All three operations end with a truth value, which may be required. -/
theorem conclude (rest : List Bytes) (valid required : Bool) (failure : ScriptError)
    (stops : failure.stopsSteps = true) :
    c.holds
      (do Step.setStack rest
          vm.pushBool valid
          Step.verifyTopIf required failure)
      (do Step.setStack (rest ++ c.below)
          vm'.pushBool valid
          Step.verifyTopIf required failure) :=
  c.bind (alike.changes.setStack rest) fun _ => c.bind (alike.pushBool valid) fun _ =>
    alike.changes.verifyTopIf required failure stops

theorem countAt (index bound : Nat) (failure : ScriptError) (stops : failure.stopsSteps = true) :
    c.holds (vm.countAt index bound failure) (vm'.countAt index bound failure) := by
  simp only [Interpreter.countAt, Sequencing.throw_bind]
  exact c.bind (c.elementAt index) fun element => c.bind (alike.operand element) fun number =>
    c.ite (c.throw failure stops) (c.pure _)

theorem countKeys (counting : c.AdmitsCounting) (keyCount : Nat) :
    c.holds (vm.countKeys keyCount) (vm'.countKeys keyCount) := by
  unfold Interpreter.countKeys
  rw [alike.isMetered, alike.limits]
  refine c.ite (c.bind (counting.opCount keyCount) fun _ => ?_) c.unit
  exact c.look fun _ => c.ite counting.tooMany c.unit

end WorksAlike

/-- A comparison holds between the steps that put questions to the verifier.  No
signature is checked before its form is admitted. -/
structure AsksAlike (c : Comparison) (vm vm' : Interpreter) :
    Prop extends FormsAlike c vm.rules vm'.rules where
  ask : forall query, c.holds (vm.ask query) (vm'.ask query)
  checkSignature : forall signature key code,
      Signature.checkTransaction signature vm.rules = .ok () ->
    c.holds (vm.checkSignature signature key code) (vm'.checkSignature signature key code)
  demandEmpty : forall valid signatures,
    c.holds (vm.demandEmpty valid signatures) (vm'.demandEmpty valid signatures)
  countSigChecks : forall count, c.holds (vm.countSigChecks count) (vm'.countSigChecks count)

namespace AsksAlike

/-- A single interpreter asks like itself as soon as the comparison holds for the
record of calls and for the count of checks. -/
theorem self {c : Comparison} (vm : Interpreter)
    (record : forall change : List VerifierCall -> List VerifierCall,
      c.holds (modify fun machine => { machine with calls := change machine.calls })
        (modify fun machine => { machine with calls := change machine.calls }))
    (countSigChecks : forall count, c.holds (vm.countSigChecks count) (vm.countSigChecks count)) :
    AsksAlike c vm vm := by
  have ask (query : SignatureQuery) : c.holds (vm.ask query) (vm.ask query) := by
    refine c.bind (record fun calls => { query := query, answer := vm.verifier query } :: calls)
      fun _ => ?_
    cases vm.verifier query with
    | ok valid => exact c.pure valid
    | error failure => exact c.pure false
  have demandContext : c.holds vm.demandContext vm.demandContext := by
    unfold Interpreter.demandContext
    cases vm.context with
    | none => exact c.throw _ rfl
    | some context => exact c.pure context
  refine ⟨.refl c vm.rules, ask, ?_, fun _ _ => c.ite (c.throw _ rfl) c.unit, countSigChecks⟩
  intro signature key code _
  unfold Interpreter.checkSignature
  cases signature.getLast? with
  | none => exact c.pure false
  | some hashByte =>
      exact c.bind demandContext fun context =>
        c.bind (c.ofExcept (SigHash.stopsSteps_digest context code _ vm.rules)) fun digest => ask _

/-- Questions keep what depends neither on the work done nor on the record of
calls. -/
theorem keeping {γ : Type} {read : Machine -> γ} (vm : Interpreter)
    (calls : forall (change : List VerifierCall -> List VerifierCall) machine,
      read { machine with calls := change machine.calls } = read machine)
    (metrics : forall (change : Metrics -> Metrics) machine,
      read { machine with metrics := change machine.metrics } = read machine) :
    AsksAlike (Comparison.keeping read) vm vm := by
  let c := Comparison.keeping read
  have work (change : Metrics -> Metrics) :
      c.holds (Step.modifyMetrics change) (Step.modifyMetrics change) :=
    Comparison.keeping_modify _ (metrics change)
  exact .self vm (fun change => Comparison.keeping_modify _ (calls change)) fun _ =>
    c.bind (work _) fun _ => c.ite (work _) c.unit

variable {c : Comparison} {vm vm' : Interpreter} (alike : AsksAlike c vm vm')

include alike

theorem checkDataSignature
    (chargeHash : forall length twofold,
      c.holds (vm.chargeHash length twofold) (vm'.chargeHash length twofold))
    (signature message key : Bytes) :
    c.holds (vm.checkDataSignature signature message key)
      (vm'.checkDataSignature signature message key) := by
  refine c.ite (c.pure false) ?_
  exact c.bind (chargeHash _ _) fun _ => c.bind (alike.ask _) fun valid =>
    c.bind (alike.countSigChecks 1) fun _ => c.pure valid

/-- Keys are used up one by one; a signature is used up when it fits. -/
private theorem matchKeys (code : Script) (signatures keys : List Bytes) :
    c.holds (vm.matchKeys code signatures keys) (vm'.matchKeys code signatures keys) := by
  induction keys generalizing signatures with
  | nil =>
      cases signatures with
      | nil => exact c.pure true
      | cons signature signatures => exact c.pure false
  | cons key keys inductionHypothesis =>
      cases signatures with
      | nil => exact c.pure true
      | cons signature signatures =>
          refine c.sequence (alike.checkTransactionEcdsa signature) fun _ checked => ?_
          have admitted := Signature.checkTransaction_of_ecdsa (Step.yields_ofExcept_iff.mp checked)
          refine c.bind (alike.checkKey key) fun _ =>
            c.bind (alike.checkSignature signature key code admitted) fun valid =>
              c.ite (c.pure false) ?_
          exact inductionHypothesis _

theorem checkMultiSigByMatching (code : Script) (signatures keys : List Bytes) :
    c.holds (vm.checkMultiSigByMatching code signatures keys)
      (vm'.checkMultiSigByMatching code signatures keys) := by
  refine c.bind (alike.matchKeys code signatures keys) fun valid =>
    c.bind (alike.demandEmpty valid signatures) fun _ => c.ite ?_ (c.pure valid)
  exact c.bind (alike.countSigChecks keys.length) fun _ => c.pure valid

private theorem demandAll (code : Script) (pairs : List (Bytes × Bytes)) :
    c.holds (vm.demandAll code pairs) (vm'.demandAll code pairs) := by
  induction pairs with
  | nil => exact c.unit
  | cons pair pairs inductionHypothesis =>
      simp only [Interpreter.demandAll, Sequencing.throw_bind]
      refine c.sequence (alike.checkTransactionSchnorr pair.1) fun _ checked => ?_
      have admitted := Signature.checkTransaction_of_schnorr (Step.yields_ofExcept_iff.mp checked)
      refine c.bind (alike.checkKey pair.2) fun _ =>
        c.bind (alike.checkSignature pair.1 pair.2 code admitted) fun valid =>
          c.ite (c.throw _ rfl) ?_
      exact c.bind (alike.countSigChecks 1) fun _ => inductionHypothesis

theorem checkMultiSigBySelection (code : Script) (bitfield : Bytes) (signatures keys : List Bytes) :
    c.holds (vm.checkMultiSigBySelection code bitfield signatures keys)
      (vm'.checkMultiSigBySelection code bitfield signatures keys) := by
  simp only [Interpreter.checkMultiSigBySelection, Sequencing.throw_bind]
  refine c.bind (c.ofExcept (stopsSteps_bitfieldOf bitfield keys.length)) fun bits =>
    c.ite (c.throw _ rfl) ?_
  exact c.bind (alike.demandAll code _) fun _ => c.pure true

end AsksAlike

/-- A comparison also holds for what signature checks do with the stacks. -/
structure ChecksAlike (c : Comparison) (vm vm' : Interpreter) : Prop
    extends WorksAlike c vm vm', AsksAlike c vm vm' where
  withoutSignature : vm.withoutSignature = vm'.withoutSignature
  schnorrMultisig : vm.enables .schnorrMultisig = vm'.enables .schnorrMultisig

namespace ChecksAlike

/-- A single interpreter checks signatures like itself as soon as it works and
asks like itself. -/
theorem self {c : Comparison} {vm : Interpreter} (works : WorksAlike c vm vm)
    (asks : AsksAlike c vm vm) :
    ChecksAlike c vm vm :=
  ⟨works, asks, rfl, rfl⟩

/-- A comparison that admits every change of the work done and of the record of
calls holds for the checks of one interpreter. -/
theorem of_metrics {c : Comparison} {vm : Interpreter} (works : WorksAlike c vm vm)
    (record : forall change : List VerifierCall -> List VerifierCall,
      c.holds (modify fun machine => { machine with calls := change machine.calls })
        (modify fun machine => { machine with calls := change machine.calls }))
    (metrics : forall change, c.holds (Step.modifyMetrics change) (Step.modifyMetrics change)) :
    ChecksAlike c vm vm :=
  .self works (.self vm record fun _ => c.bind (metrics _) fun _ => works.charge _)

variable {c : Comparison} {vm vm' : Interpreter} (alike : ChecksAlike c vm vm')

include alike

theorem checkSig (required : Bool) : c.holds (vm.checkSig required) (vm'.checkSig required) := by
  refine c.lookStack .invalidStackOperation rfl fun stack => ?_
  rcases stack with _ | ⟨key, _ | ⟨signature, rest⟩⟩
  · exact Or.inl ⟨rfl, rfl⟩
  · exact Or.inl ⟨rfl, rfl⟩
  · right
    dsimp only [List.cons_append]
    rw [alike.withoutSignature]
    refine c.sequence (alike.checkTransaction signature) fun _ admitted =>
      c.bind (alike.checkKey key) fun _ => ?_
    have checkSignature := alike.checkSignature signature key
    refine c.look fun machine => c.bind (checkSignature _ (Step.yields_ofExcept_iff.mp admitted))
      fun valid =>
      c.bind (alike.demandEmpty valid [signature]) fun _ => c.ite ?_ ?_
    · exact c.bind (alike.countSigChecks 1) fun _ => alike.conclude rest valid required _ rfl
    · exact alike.conclude rest valid required _ rfl

theorem checkDataSig (required : Bool) :
    c.holds (vm.checkDataSig required) (vm'.checkDataSig required) := by
  refine c.lookStack .invalidStackOperation rfl fun stack => ?_
  rcases stack with _ | ⟨key, _ | ⟨message, _ | ⟨signature, rest⟩⟩⟩
  · exact Or.inl ⟨rfl, rfl⟩
  · exact Or.inl ⟨rfl, rfl⟩
  · exact Or.inl ⟨rfl, rfl⟩
  · exact Or.inr (c.bind (alike.checkData signature) fun _ => c.bind (alike.checkKey key) fun _ =>
      c.bind (alike.checkDataSignature alike.chargeHash signature message key) fun valid =>
        c.bind (alike.demandEmpty valid [signature])
          fun _ => alike.conclude rest valid required _ rfl)

theorem checkMultiSig (counting : c.AdmitsCounting) (required : Bool) :
    c.holds (vm.checkMultiSig required) (vm'.checkMultiSig required) := by
  unfold Interpreter.checkMultiSig
  rw [alike.limits, alike.withoutSignature, alike.schnorrMultisig]
  refine c.bind (alike.countAt _ _ _ rfl) fun keyCount =>
    c.bind (alike.countKeys counting keyCount) fun _ =>
    c.bind (alike.countAt _ _ _ rfl) fun sigCount => c.requireLook _ fun machine enough => ?_
  -- All parts of the multiple signature lie above what lies below the stack.
  have part (start count : Nat) (bound : start + count ≤ 3 + keyCount + sigCount) :
      ((machine.atop c.below).stack.drop start).take count =
        (machine.stack.drop start).take count := by
    rw [Machine.atop, List.drop_append_of_le_length (by omega), List.take_append_of_le_length]
    rw [List.length_drop]
    omega
  have rest : (machine.atop c.below).stack.drop (3 + keyCount + sigCount) =
      machine.stack.drop (3 + keyCount + sigCount) ++ c.below :=
    List.drop_append_of_le_length enough
  have code : (machine.atop c.below).scriptCode = machine.scriptCode := rfl
  dsimp only
  rw [part 1 keyCount (by omega), part (2 + keyCount) sigCount (by omega), rest, code]
  refine c.bind (c.elementAt _) fun bitfield => c.ite ?_ ?_
  · exact c.bind (alike.checkMultiSigBySelection _ _ _ _) fun valid =>
      alike.conclude _ valid required _ rfl
  · exact c.bind (alike.checkMultiSigByMatching _ _ _) fun valid =>
      alike.conclude _ valid required _ rfl

/-- The comparison holds for every operation that checks signatures. -/
theorem comparesChecks (counting : c.AdmitsCounting) (instruction : Instruction) :
    ComparesChecks c vm vm' instruction := by
  intro checksSignature executing next
  generalize Opcode.operation instruction.opcode = operation at checksSignature ⊢
  cases operation with
  | checkSig required => exact alike.checkSig required
  | checkMultiSig required => exact alike.checkMultiSig counting required
  | checkDataSig required => exact alike.checkDataSig required
  | _ => cases checksSignature

end ChecksAlike

/-- A comparison that holds between each operation of one interpreter and
itself. -/
structure Covers (c : Comparison) (vm : Interpreter) : Prop extends Corresponds c vm vm where
  checks : forall instruction, ComparesChecks c vm vm instruction

theorem Covers.run {c : Comparison} {vm : Interpreter} (covers : Covers c vm) (bare : c.below = [])
    (script : Script) : c.holds (vm.run script) (vm.run script) :=
  covers.toCorresponds.run bare script fun instruction _ => covers.checks instruction

/-- All that has to be known of a comparison are the changes that it admits, the
charges among them. -/
theorem covers_of_charges {c : Comparison} {vm : Interpreter} (changes : c.AdmitsChanges)
    (record : forall change : List VerifierCall -> List VerifierCall,
      c.holds (modify fun machine => { machine with calls := change machine.calls })
        (modify fun machine => { machine with calls := change machine.calls }))
    (charge : forall cost, c.holds (vm.charge cost) (vm.charge cost))
    (chargeHash : forall length twofold,
      c.holds (vm.chargeHash length twofold) (vm.chargeHash length twofold))
    (countSigChecks : forall count, c.holds (vm.countSigChecks count) (vm.countSigChecks count)) :
    Covers c vm := by
  have corresponds : Corresponds c vm vm := .self changes charge chargeHash
  have checks := ChecksAlike.self corresponds.toWorksAlike (.self vm record countSigChecks)
  exact ⟨corresponds, checks.comparesChecks changes.toAdmitsCounting⟩

/-- A comparison that admits every change of the work done admits all charges. -/
theorem covers_of_metrics {c : Comparison} (vm : Interpreter) (changes : c.AdmitsChanges)
    (record : forall change : List VerifierCall -> List VerifierCall,
      c.holds (modify fun machine => { machine with calls := change machine.calls })
        (modify fun machine => { machine with calls := change machine.calls }))
    (metrics : forall change, c.holds (Step.modifyMetrics change) (Step.modifyMetrics change)) :
    Covers c vm := by
  have performs : PerformsAlike c vm vm := .of_metrics changes.toAdmitsStackChanges metrics
  exact covers_of_charges changes record performs.charge performs.chargeHash fun _ =>
    c.bind (metrics _) fun _ => performs.charge _

end Interpreter
end SpendRules

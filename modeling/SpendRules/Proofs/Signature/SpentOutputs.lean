import SpendRules.Proofs.Signature.Encoding

namespace SpendRules
namespace SigHash

/-!
# Signatures that ask for all spent outputs

A bit of the hash type asks for a commitment to all outputs that are spent.  The
newer message holds the hash of these outputs or does not exist.  The older
message has no place for it: the bit stands in the hash type at its end and has
no other effect.

Strict encoding refuses the bit without tokens and together with the bit that
leaves inputs free.  It also demands the newer message from every signature that
is checked under the rule for it.
-/

variable {context : SpendingContext} {code : Script} {hashType : SigHashType} {rules : RuleSet}

/-- Every older message has a digest.  A newer message has to exist first. -/
theorem digest_eq_ok_iff {found : Hash256} :
    digest context code hashType rules = .ok found ↔
      ((hashType.hasForkId && rules.enables .forkId) = false ∧
          legacyDigest context.tx context.index code hashType = found) ∨
        ((hashType.hasForkId && rules.enables .forkId) = true ∧
          ∃ message, forkIdMessage context code hashType rules = .ok message ∧
            Hash.doubleSha256 message = found) := by
  unfold digest
  cases hashType.hasForkId && rules.enables .forkId with
  | false => simp
  | true =>
      unfold forkIdDigest
      cases forkIdMessage context code hashType rules <;> simp [Functor.map, Except.map]

/-- What the newer message holds of the outputs that are spent stands right behind the
version and the hash of the references. -/
theorem opens_of_forkIdMessage {message : Bytes}
    (composed : forkIdMessage context code hashType rules = .ok message) :
    ∃ utxos, committedUtxos context hashType rules = .ok utxos ∧
      Bytes.ofNatLE 4 context.tx.version.toNat ++ (committedPrevouts context hashType).bytes ++
        utxos <+: message := by
  unfold forkIdMessage at composed
  cases committed : committedUtxos context hashType rules with
  | error failure =>
      rw [committed] at composed
      cases composed
  | ok utxos =>
      rw [committed] at composed
      cases composed
      refine ⟨utxos, rfl, ?_⟩
      -- The later parts are appended one after another, so all of them are in front of a suffix.
      simp only [List.append_assoc, List.prefix_append_right_inj]
      exact List.prefix_append _ _

/-- A hash type that asks for the hash of all spent outputs gets it where the
rules know tokens, no input is left free and the context knows these outputs. -/
theorem committedUtxos_eq_ok_iff (asks : hashType.hasUtxos = true) {utxos : Bytes} :
    committedUtxos context hashType rules = .ok utxos ↔
      rules.enables .tokens = true ∧ hashType.hasAnyoneCanPay = false ∧
        ∃ outputs, context.allSpent = some outputs ∧ (hashOutputs outputs).bytes = utxos := by
  unfold committedUtxos
  rw [if_pos asks]
  cases rules.enables .tokens <;> cases hashType.hasAnyoneCanPay <;> cases context.allSpent <;> simp

/-- A hash type that asks for all spent outputs either has the digest of the older
message, because the newer one is not in use, or its digest is the hash of a newer
message that holds the hash of these outputs.  Under strict encoding, a signature with
such a hash type is admitted only where tokens are, without leaving inputs free, and
with the bit for the newer message exactly if the rules ask for that one. -/
theorem utxos_committed_or_refused (context : SpendingContext) (code : Script)
    (hashType : SigHashType) (rules : RuleSet) (asks : hashType.hasUtxos = true) :
    (forall found, digest context code hashType rules = .ok found ->
      ((hashType.hasForkId && rules.enables .forkId) = false ∧
          found = legacyDigest context.tx context.index code hashType) ∨
        (rules.enables .forkId = true ∧ hashType.hasForkId = true ∧
          rules.enables .tokens = true ∧ hashType.hasAnyoneCanPay = false ∧
          ∃ outputs message, context.allSpent = some outputs ∧
            forkIdMessage context code hashType rules = .ok message ∧
            found = Hash.doubleSha256 message ∧
            Bytes.ofNatLE 4 context.tx.version.toNat ++ (hashPrevouts context.tx.inputs).bytes ++
              (hashOutputs outputs).bytes <+: message)) ∧
      (forall signature, rules.enables .strictEncoding = true ->
        SigHashType.ofSignature? signature = some hashType ->
        Signature.checkTransaction signature rules = .ok () ->
          rules.enables .tokens = true ∧ hashType.hasAnyoneCanPay = false ∧
            hashType.hasForkId = rules.enables .forkId) := by
  constructor
  · intro found digested
    rcases digest_eq_ok_iff.mp digested with ⟨unused, rfl⟩ | ⟨used, message, composed, rfl⟩
    · exact Or.inl ⟨unused, rfl⟩
    · rcases opens_of_forkIdMessage composed with ⟨utxos, committed, opens⟩
      rcases (committedUtxos_eq_ok_iff asks).mp committed with
        ⟨tokens, allInputs, outputs, known, rfl⟩
      rw [committedPrevouts, if_neg (Bool.eq_false_iff.mp allInputs)] at opens
      rw [Bool.and_eq_true] at used
      exact Or.inr
        ⟨used.2, used.1, tokens, allInputs, outputs, message, known, composed, rfl, opens⟩
  · intro signature strict last checked
    rcases Signature.checkTransaction_eq_ok_iff.mp checked with empty | ⟨_, admitted⟩
    · rw [List.isEmpty_iff.mp empty] at last
      cases last
    · rcases Signature.checkHashType_eq_ok_iff.mp admitted strict with
        ⟨_, same, _, forkId, permitted⟩
      rw [last, Option.some.injEq] at same
      subst same
      exact ⟨(permitted asks).1, (permitted asks).2, forkId⟩

/-- The spending of one output, which is known to be all that is spent. -/
private def spendingKnown : SpendingContext where
  tx :=
    { version := 2
      inputs := [{ prevout := OutPoint.null, script := { bytes := [] }, sequence := 1 }]
      outputs := []
      lockTime := 0 }
  index := 0
  input := { prevout := OutPoint.null, script := { bytes := [] }, sequence := 1 }
  input_eq := rfl
  spent := Output.plain 1000 { bytes := [] }
  allSpent := some [Output.plain 1000 { bytes := [] }]
  allSpent_eq := fun _ present => by
    cases present
    exact ⟨rfl, rfl⟩

/-- The shortest canonical signature, with the given hash type. -/
private def shortSignature (hashByte : UInt8) : Bytes :=
  [0x30, 6, 2, 1, 1, 2, 1, 1, hashByte]

/-- Strict rules for the newer message, with tokens. -/
private def strictRules : RuleSet :=
  RuleSet.ofFlags
    (Rule.strictEncoding.publicMask ||| Rule.forkId.publicMask ||| Rule.tokens.publicMask)

/-- A digest under such rules is the hash of a message that holds the hash of the only
output that is spent. -/
theorem utxos_committed_known :
    (∃ message,
      digest spendingKnown { bytes := [0xac] } { raw := 0x61 } strictRules =
          .ok (Hash.doubleSha256 message) ∧
        Bytes.ofNatLE 4 2 ++ (hashPrevouts spendingKnown.tx.inputs).bytes ++
          (hashOutputs [Output.plain 1000 { bytes := [] }]).bytes <+: message) ∧
      Signature.checkTransaction (shortSignature 0x61) strictRules = .ok () ∧
      strictRules.enables .forkId = true := by
  have asks : SigHashType.hasUtxos { raw := 0x61 } = true := by decide
  have settled := utxos_committed_or_refused spendingKnown { bytes := [0xac] } _ strictRules asks
  have digested : ∃ found,
      digest spendingKnown { bytes := [0xac] } { raw := 0x61 } strictRules = .ok found :=
    ⟨_, digest_eq_ok_iff.mpr (Or.inr ⟨by decide, _, rfl, rfl⟩)⟩
  have checked : Signature.checkTransaction (shortSignature 0x61) strictRules = .ok () := rfl
  refine ⟨?_, checked, (settled.2 _ (by decide) rfl checked).2.2.symm⟩
  rcases digested with ⟨found, digested⟩
  rcases settled.1 found digested with
    ⟨unused, _⟩ | ⟨_, _, _, _, outputs, message, known, _, rfl, opens⟩
  · cases unused
  · cases known
    exact ⟨message, digested, opens⟩

/-- Strict rules with tokens, but without the newer message. -/
private def strictOlderRules : RuleSet :=
  RuleSet.ofFlags (Rule.strictEncoding.publicMask ||| Rule.tokens.publicMask)

/-- Under these rules, a hash type that asks for all spent outputs has the digest
of the older message, and a signature with it is admitted. -/
theorem utxos_ignored :
    SigHashType.hasUtxos { raw := 0x21 } = true ∧ strictOlderRules.enables .forkId = false ∧
      digest spendingKnown { bytes := [0xac] } { raw := 0x21 } strictOlderRules =
        .ok (legacyDigest spendingKnown.tx 0 { bytes := [0xac] } { raw := 0x21 }) ∧
      Signature.checkTransaction (shortSignature 0x21) strictOlderRules = .ok () :=
  ⟨by decide, by decide, digest_eq_ok_iff.mpr (Or.inl ⟨by decide, rfl⟩), rfl⟩

end SigHash
end SpendRules

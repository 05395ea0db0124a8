import SpendRules.Proofs.Rules
import SpendRules.Proofs.Sequencing
import SpendRules.Signature.Digest
import SpendRules.Signature.Encoding

namespace SpendRules

/-!
# What the checks of forms admit

Each check is a sequence of refusals, which depend on the rules.  Stated as the
conditions under which nothing is refused, every check turns out to demand less
under looser rules.  The digest that is signed depends on two rules only, and
these are not among those that can be tightened.
-/

namespace Signature

variable {strict loose : RuleSet}

/-- The form of a signature is admitted when it has the length of the newer
scheme, or else is canonical and low as far as the rules ask for it. -/
theorem checkRaw_eq_ok_iff {signature : Bytes} {rules : RuleSet} :
    checkRaw signature rules = .ok () ↔ isSchnorr signature = true ∨
      ((rules.enables .strictDer = true ∨ rules.enables .lowS = true ∨
            rules.enables .strictEncoding = true ->
          isCanonical signature = true) ∧
        (rules.enables .lowS = true -> isLow signature = .ok true)) := by
  unfold checkRaw
  by_cases schnorr : isSchnorr signature = true
  · rw [if_pos schnorr]
    exact ⟨fun _ => Or.inl schnorr, fun _ => rfl⟩
  rw [if_neg schnorr, Sequencing.refuse_eq_ok_iff, or_iff_right schnorr]
  refine and_congr ?_ ?_
  · cases isCanonical signature <;> simp [or_assoc]
  · cases rules.enables .lowS with
    | false => simp
    | true =>
        rw [if_pos rfl, imp_iff_right rfl]
        cases isLow signature with
        | error failure => simp [bind, Except.bind]
        | ok low => cases low <;> simp [bind, Except.bind]

/-- The hash type of a signature is admitted when it is defined, asks for the
chain exactly when the rules do, and asks for all spent outputs only when the
rules and the other bits permit it.  Without strict encoding everything is
admitted. -/
theorem checkHashType_eq_ok_iff {signature : Bytes} {rules : RuleSet} :
    checkHashType signature rules = .ok () ↔ (rules.enables .strictEncoding = true ->
      ∃ hashType, SigHashType.ofSignature? signature = some hashType ∧ hashType.isDefined = true ∧
        hashType.hasForkId = rules.enables .forkId ∧
        (hashType.hasUtxos = true -> rules.enables .tokens = true ∧
          hashType.hasAnyoneCanPay = false)) := by
  unfold checkHashType
  cases rules.enables .strictEncoding with
  | false => simp
  | true =>
      rw [if_pos rfl, imp_iff_right rfl]
      cases SigHashType.ofSignature? signature with
      | none => simp
      | some hashType =>
          simp only [Sequencing.refuse_eq_ok_iff, Option.some.injEq, exists_eq_left']
          cases hashType.isDefined <;> cases hashType.hasForkId <;> cases rules.enables .forkId <;>
            cases hashType.hasUtxos <;> simp

theorem checkData_eq_ok_iff {signature : Bytes} {rules : RuleSet} :
    checkData signature rules = .ok () ↔ signature.isEmpty = true ∨
      checkRaw signature rules = .ok () := by
  unfold checkData
  cases signature.isEmpty <;> simp

theorem checkTransaction_eq_ok_iff {signature : Bytes} {rules : RuleSet} :
    checkTransaction signature rules = .ok () ↔ signature.isEmpty = true ∨
      (checkRaw signature.dropLast rules = .ok () ∧ checkHashType signature rules = .ok ()) := by
  unfold checkTransaction
  cases signature.isEmpty with
  | true => simp
  | false => cases checkRaw signature.dropLast rules <;> simp [bind, Except.bind]

theorem checkTransactionEcdsa_eq_ok_iff {signature : Bytes} {rules : RuleSet} :
    checkTransactionEcdsa signature rules = .ok () ↔ signature.isEmpty = true ∨
      (isSchnorr signature.dropLast = false ∧ checkTransaction signature rules = .ok ()) := by
  unfold checkTransactionEcdsa
  cases signature.isEmpty with
  | true => simp
  | false => cases isSchnorr signature.dropLast <;> simp

theorem checkTransactionSchnorr_eq_ok_iff {signature : Bytes} {rules : RuleSet} :
    checkTransactionSchnorr signature rules = .ok () ↔
      signature.length = Secp256k1.schnorrLength + 1 ∧
      checkTransaction signature rules = .ok () := by
  unfold checkTransactionSchnorr
  rw [Sequencing.refuse_eq_ok_iff, Decidable.not_not]

/-- Admitting one scheme only is stricter than admitting both. -/
theorem checkTransaction_of_ecdsa {signature : Bytes} {rules : RuleSet}
    (checked : checkTransactionEcdsa signature rules = .ok ()) :
    checkTransaction signature rules = .ok () := by
  rcases checkTransactionEcdsa_eq_ok_iff.mp checked with empty | ⟨_, admitted⟩
  · exact checkTransaction_eq_ok_iff.mpr (Or.inl empty)
  · exact admitted

theorem checkTransaction_of_schnorr {signature : Bytes} {rules : RuleSet}
    (checked : checkTransactionSchnorr signature rules = .ok ()) :
    checkTransaction signature rules = .ok () :=
  (checkTransactionSchnorr_eq_ok_iff.mp checked).2

/-- Under strict encoding, a signature that is admitted and not empty has an
admitted form without its last byte, and asks for the chain exactly when the
rules do. -/
theorem forms_of_checkTransaction {signature : Bytes} {hashByte : UInt8} {rules : RuleSet}
    (strict : rules.enables .strictEncoding = true) (last : signature.getLast? = some hashByte)
    (checked : checkTransaction signature rules = .ok ()) :
    checkRaw signature.dropLast rules = .ok () ∧
      SigHashType.hasForkId { raw := hashByte.toUInt32 } = rules.enables .forkId := by
  rcases checkTransaction_eq_ok_iff.mp checked with empty | ⟨raw, hashTypeChecked⟩
  · rw [List.isEmpty_iff.mp empty] at last
    cases last
  · rcases checkHashType_eq_ok_iff.mp hashTypeChecked strict with ⟨hashType, found, _, chain, _⟩
    rw [SigHashType.ofSignature?, last, Option.map_some, Option.some.injEq] at found
    rw [found]
    exact ⟨raw, chain⟩

theorem checkKey_eq_ok_iff {key : Bytes} {rules : RuleSet} :
    checkKey key rules = .ok () ↔
    (rules.enables .strictEncoding = true -> isCanonicalKey key = true) := by
  unfold checkKey
  rw [Sequencing.refuse_eq_ok_iff]
  cases rules.enables .strictEncoding <;> simp

/-! ## Rules that admit more -/

/-- The looser rules admit the forms that the stricter rules admit. -/
structure AdmitsForms (strict loose : RuleSet) : Prop where
  raw : forall signature, checkRaw signature strict = .ok () -> checkRaw signature loose = .ok ()
  hashType : forall signature, checkHashType signature strict = .ok () ->
    checkHashType signature loose = .ok ()
  key : forall key, checkKey key strict = .ok () -> checkKey key loose = .ok ()

namespace AdmitsForms

variable (admits : AdmitsForms strict loose)

include admits

theorem checkData {signature : Bytes} (checked : checkData signature strict = .ok ()) :
    checkData signature loose = .ok () := by
  rw [checkData_eq_ok_iff] at checked ⊢
  exact checked.imp_right (admits.raw _)

theorem checkTransaction {signature : Bytes}
    (checked : checkTransaction signature strict = .ok ()) :
    checkTransaction signature loose = .ok () := by
  rw [checkTransaction_eq_ok_iff] at checked ⊢
  exact checked.imp_right (And.imp (admits.raw _) (admits.hashType _))

theorem checkTransactionEcdsa {signature : Bytes}
    (checked : checkTransactionEcdsa signature strict = .ok ()) :
    checkTransactionEcdsa signature loose = .ok () := by
  rw [checkTransactionEcdsa_eq_ok_iff] at checked ⊢
  exact checked.imp_right (And.imp_right admits.checkTransaction)

theorem checkTransactionSchnorr {signature : Bytes}
    (checked : checkTransactionSchnorr signature strict = .ok ()) :
    checkTransactionSchnorr signature loose = .ok () := by
  rw [checkTransactionSchnorr_eq_ok_iff] at checked ⊢
  exact checked.imp_right admits.checkTransaction

end AdmitsForms

/-- Looser rules demand less. -/
theorem admitsForms_of_tightens (tightens : strict.Tightens loose) : AdmitsForms strict loose where
  raw signature checked := by
    rw [checkRaw_eq_ok_iff] at checked ⊢
    rcases checked with schnorr | ⟨canonical, low⟩
    · exact Or.inl schnorr
    · refine Or.inr ⟨?_, fun active => low (tightens.keeps _ active)⟩
      rintro (active | active | active)
      · exact canonical (Or.inl (tightens.keeps _ active))
      · exact canonical (Or.inr (Or.inl (tightens.keeps _ active)))
      · exact canonical (Or.inr (Or.inr (tightens.keeps _ active)))
  hashType signature checked := by
    have forkId : strict.enables .forkId = loose.enables .forkId := tightens.enables_eq (by decide)
    have tokens : strict.enables .tokens = loose.enables .tokens := tightens.enables_eq (by decide)
    rw [checkHashType_eq_ok_iff] at checked ⊢
    rw [forkId, tokens] at checked
    intro active
    exact checked (tightens.keeps _ active)
  key key checked := by
    rw [checkKey_eq_ok_iff] at checked ⊢
    intro active
    exact checked (tightens.keeps _ active)

/-- A signature that commits to all spent outputs is admitted once tokens are;
beyond that, upgrades do not look at forms. -/
theorem admitsForms_of_upgrades {later earlier : RuleSet} (upgrades : later.Upgrades earlier) :
    AdmitsForms earlier later where
  raw signature checked := by
    unfold checkRaw at checked ⊢
    rwa [upgrades.same .strictDer (by decide), upgrades.same .lowS (by decide),
      upgrades.same .strictEncoding (by decide)]
  hashType signature checked := by
    rw [checkHashType_eq_ok_iff] at checked ⊢
    rw [upgrades.same .strictEncoding (by decide), upgrades.same .forkId (by decide)]
    intro active
    rcases checked active with ⟨hashType, found, defined, forkId, permitted⟩
    exact ⟨hashType, found, defined, forkId,
      fun asks => (permitted asks).imp_left (upgrades.keeps _)⟩
  key key checked := by
    rw [checkKey_eq_ok_iff] at checked ⊢
    rwa [upgrades.same .strictEncoding (by decide)]

end Signature

/-- Of all rules only two have an effect on the digest that is signed. -/
theorem SigHash.digest_congr {left right : RuleSet}
    (forkId : left.enables .forkId = right.enables .forkId)
    (tokens : left.enables .tokens = right.enables .tokens) (context : SpendingContext)
    (code : Script) (hashType : SigHashType) :
    digest context code hashType left = digest context code hashType right := by
  unfold digest forkIdDigest forkIdMessage committedUtxos committedToken
  rw [forkId, tokens]

end SpendRules

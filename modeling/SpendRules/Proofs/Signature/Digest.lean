import SpendRules.Proofs.Rules
import SpendRules.Proofs.SpendingContext
import SpendRules.Signature.Digest

namespace SpendRules
namespace SigHash

/-!
# What a digest depends on

A digest is composed from the transaction, the signed input and the output that
it spends.  Only one bit of the hash type asks for more, for the outputs that
the other inputs spend.  The rules decide which composition is used, and
whether it holds tokens.
-/

variable {context other : SpendingContext}

private theorem committedUtxos_of_isPartOf (part : context.IsPartOf other) (hashType : SigHashType)
    (rules : RuleSet) :
    committedUtxos context hashType rules = .error .contextUnavailable ∨
      committedUtxos context hashType rules = committedUtxos other hashType rules := by
  unfold committedUtxos
  split
  · split
    · exact Or.inr rfl
    cases known : context.allSpent with
    | none => exact Or.inl rfl
    | some outputs =>
        rw [part.allSpent outputs known]
        exact Or.inr rfl
  · exact Or.inr rfl

/-- A context that knows more gives the same digest, wherever the lesser one
gives any. -/
theorem digest_of_isPartOf (part : context.IsPartOf other) (code : Script) (hashType : SigHashType)
    (rules : RuleSet) :
    digest context code hashType rules = .error .contextUnavailable ∨
      digest context code hashType rules = digest other code hashType rules := by
  unfold digest
  split
  · unfold forkIdDigest forkIdMessage
    rcases committedUtxos_of_isPartOf part hashType rules with missing | same
    · rw [missing]
      exact Or.inl rfl
    · unfold committedToken committedPrevouts committedSequences committedOutputs
      rw [same, part.tx, part.index, part.spent, part.input]
      exact Or.inr rfl
  · rw [part.tx, part.index]
    exact Or.inr rfl

/-- Without a token on the spent output, the newer message holds none. -/
theorem committedToken_of_none {rules : RuleSet} (bare : context.spent.token = none) :
    committedToken context rules = [] := by
  unfold committedToken
  rw [bare]
  exact ite_self _

section

variable {later earlier : RuleSet} {code : Script} {hashType : SigHashType}
  (upgrades : later.Upgrades earlier)

include upgrades

private theorem committedUtxos_of_upgrades {utxos : Bytes}
    (committed : committedUtxos context hashType earlier = .ok utxos) :
    committedUtxos context hashType later = .ok utxos := by
  unfold committedUtxos at committed ⊢
  cases active : earlier.enables .tokens with
  | true =>
      rw [active] at committed
      rwa [upgrades.keeps _ active]
  | false =>
      -- Without tokens, a hash type that asks for all spent outputs has no digest.
      rw [active] at committed
      split at committed
      · cases committed
      · rename_i unasked
        rwa [if_neg unasked]

/-- Without a token on the spent output, upgrades leave every digest as it is.
They only give digests where there were none. -/
theorem digest_of_upgrades (bare : context.spent.token = none) {found : Hash256}
    (digested : digest context code hashType earlier = .ok found) :
    digest context code hashType later = .ok found := by
  unfold digest at digested ⊢
  rw [upgrades.same .forkId (by decide)]
  split at digested
  · rename_i newer
    rw [if_pos newer]
    unfold forkIdDigest forkIdMessage at digested ⊢
    cases committed : committedUtxos context hashType earlier with
    | error failure =>
        rw [committed] at digested
        cases digested
    | ok utxos =>
        rw [committed, committedToken_of_none bare] at digested
        rw [committedUtxos_of_upgrades upgrades committed, committedToken_of_none bare]
        exact digested
  · rename_i older
    rwa [if_neg older]

end

end SigHash
end SpendRules

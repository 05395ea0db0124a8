import SpendRules.Signature.Digest

namespace SpendRules
namespace SigHash

/-!
# What a hash type leaves free

A signature of the newer composition commits to the parts of a spending that
its hash type selects.  Everything else may still be changed by others: the
unlocking scripts always, the locking scripts of spent outputs unless all spent
outputs are asked for, and whatever the hash type frees.

The parts that are selected are listed here without mention of the message, and
two spendings that agree on them have the same digest, or lack one for the same
reason.  They need not be spendings of one transaction, nor of inputs with one
index.
-/

/-- Two spendings agree on all that a hash type selects under some rules. -/
structure AgreeOnSelected (hashType : SigHashType) (rules : RuleSet)
    (context other : SpendingContext) : Prop where
  version : context.tx.version = other.tx.version
  lockTime : context.tx.lockTime = other.tx.lockTime
  prevout : context.input.prevout = other.input.prevout
  sequence : context.input.sequence = other.input.sequence
  value : context.spent.value = other.spent.value
  token : rules.enables .tokens = true -> context.spent.token = other.spent.token
  prevouts : hashType.hasAnyoneCanPay = false ->
    context.tx.inputs.map Input.prevout = other.tx.inputs.map Input.prevout
  sequences : hashType.hasAnyoneCanPay = false -> hashType.selection ≠ .none ->
    hashType.selection ≠ .single ->
    context.tx.inputs.map Input.sequence = other.tx.inputs.map Input.sequence
  outputs : hashType.selection ≠ .none -> hashType.selection ≠ .single ->
    context.tx.outputs = other.tx.outputs
  /-- The output with the index of the signed input, or its absence. -/
  ownOutput : hashType.selection = .single ->
    context.tx.outputs[context.index]? = other.tx.outputs[other.index]?
  /-- The outputs that all inputs spend, or that they are not known. -/
  allSpent : hashType.hasUtxos = true -> context.allSpent = other.allSpent

private theorem hashPrevouts_congr {inputs others : List Input}
    (same : inputs.map Input.prevout = others.map Input.prevout) :
    hashPrevouts inputs = hashPrevouts others := by
  have message (inputs : List Input) :
      prevoutsMessage inputs = (inputs.map Input.prevout).flatMap OutPoint.format.encode := by
    simp only [prevoutsMessage, List.flatMap_map]
  unfold hashPrevouts
  rw [message, message, same]

private theorem hashSequences_congr {inputs others : List Input}
    (same : inputs.map Input.sequence = others.map Input.sequence) :
    hashSequences inputs = hashSequences others := by
  have message (inputs : List Input) :
      sequencesMessage inputs =
        (inputs.map Input.sequence).flatMap fun sequence => Bytes.ofNatLE 4 sequence.toNat := by
    simp only [sequencesMessage, List.flatMap_map]
  unfold hashSequences
  rw [message, message, same]

namespace AgreeOnSelected

variable {hashType : SigHashType} {rules : RuleSet} {context other : SpendingContext}
  (agree : AgreeOnSelected hashType rules context other)

include agree

private theorem committedPrevouts :
    committedPrevouts context hashType = committedPrevouts other hashType := by
  unfold SigHash.committedPrevouts
  cases free : hashType.hasAnyoneCanPay with
  | true => rw [if_pos rfl, if_pos rfl]
  | false => exact hashPrevouts_congr (agree.prevouts free)

private theorem committedSequences :
    committedSequences context hashType = committedSequences other hashType := by
  unfold SigHash.committedSequences
  cases free : hashType.hasAnyoneCanPay || hashType.freesSequences with
  | true => rw [if_pos rfl, if_pos rfl]
  | false =>
      have bound := Bool.or_eq_false_iff.mp free
      have selection : hashType.selection ≠ .none ∧ hashType.selection ≠ .single := by
        simpa [SigHashType.freesSequences] using bound.2
      exact hashSequences_congr (agree.sequences bound.1 selection.1 selection.2)

private theorem committedOutputs :
    committedOutputs context hashType = committedOutputs other hashType := by
  unfold SigHash.committedOutputs
  cases selected : hashType.selection with
  | none => rfl
  | single =>
      have ownOutput := agree.ownOutput selected
      dsimp only
      rw [ownOutput]
  | all | unsupported =>
      have outputs := agree.outputs (by simp [selected]) (by simp [selected])
      dsimp only
      rw [outputs]

/-- Where spent outputs are asked for, two contexts lack them together. -/
private theorem committedUtxos :
    committedUtxos context hashType rules = committedUtxos other hashType rules := by
  unfold SigHash.committedUtxos
  cases asked : hashType.hasUtxos with
  | false => rfl
  | true =>
      have allSpent := agree.allSpent asked
      rw [allSpent]

private theorem committedToken : committedToken context rules = committedToken other rules := by
  unfold SigHash.committedToken
  cases active : rules.enables .tokens with
  | false => rfl
  | true =>
      have token := agree.token active
      rw [token]

private theorem forkIdMessage (code : Script) :
    forkIdMessage context code hashType rules = forkIdMessage other code hashType rules := by
  unfold SigHash.forkIdMessage
  rw [agree.committedUtxos, agree.committedPrevouts, agree.committedSequences, agree.committedToken,
    agree.committedOutputs, agree.version, agree.lockTime, agree.prevout, agree.sequence,
    agree.value]

end AgreeOnSelected

/-- Spendings that agree on what a hash type selects have the same digest, or
lack one for the same reason, as long as the newer composition is in use. -/
theorem digest_eq_of_agreeOnSelected {rules : RuleSet} {hashType : SigHashType}
    {context other : SpendingContext} {code otherCode : Script}
    (active : rules.enables .forkId = true) (newer : hashType.hasForkId = true)
    (agree : AgreeOnSelected hashType rules context other) (sameCode : code = otherCode) :
    digest context code hashType rules = digest other otherCode hashType rules := by
  subst sameCode
  have composed : (hashType.hasForkId && rules.enables .forkId) = true := by rw [newer, active]; rfl
  unfold digest forkIdDigest
  rw [if_pos composed, if_pos composed, agree.forkIdMessage]

/-- The rules under which the newer message is used and holds tokens. -/
private def newerRules : RuleSet :=
  RuleSet.ofFlags (Rule.forkId.publicMask ||| Rule.tokens.publicMask)

/-- The hash type that selects one output and leaves all other inputs free. -/
private def ownOutputOnly : SigHashType :=
  { raw := 0xc3 }

private def coin (index : UInt32) (unlocking : Bytes) (sequence : UInt32) : Input where
  prevout := { hash := Hash256.zero, index := index }
  script := { bytes := unlocking }
  sequence := sequence

/-- One coin is turned into one output. -/
private def alone : SpendingContext where
  tx := {
    version := 2
    inputs := [coin 7 [] 5]
    outputs := [Output.plain 900 { bytes := [0x51] }]
    lockTime := 0 }
  index := 0
  input := coin 7 [] 5
  input_eq := rfl
  spent := Output.plain 1000 { bytes := [0xac] }
  allSpent := none
  allSpent_eq := fun _ absent => nomatch absent

/-- The same coin is turned into the same output, behind another input and
another output, with an unlocking script and another locking script. -/
private def joined : SpendingContext where
  tx := {
    version := 2
    inputs := [coin 8 [0x51] 6, coin 7 [0x52, 0x53] 5]
    outputs := [Output.plain 5 { bytes := [] }, Output.plain 900 { bytes := [0x51] },
      Output.plain 6 { bytes := [] }]
    lockTime := 0 }
  index := 1
  input := coin 7 [0x52, 0x53] 5
  input_eq := rfl
  spent := Output.plain 1000 { bytes := [0x51] }
  allSpent := some [Output.plain 2000 { bytes := [] }, Output.plain 1000 { bytes := [0x51] }]
  allSpent_eq := fun outputs known => by
    cases known
    exact ⟨rfl, rfl⟩

/-- A signature for one coin and one output stays valid when others join. -/
theorem digest_joined_eq_alone :
    (newerRules.enables .forkId = true ∧ ownOutputOnly.hasForkId = true) ∧
      AgreeOnSelected ownOutputOnly newerRules joined alone ∧
      digest joined { bytes := [0xac] } ownOutputOnly newerRules =
        digest alone { bytes := [0xac] } ownOutputOnly newerRules := by
  have free : ownOutputOnly.hasAnyoneCanPay = true := by decide
  have single : ownOutputOnly.selection = .single := by decide
  have unasked : ownOutputOnly.hasUtxos = false := by decide
  have agree : AgreeOnSelected ownOutputOnly newerRules joined alone := {
    version := rfl
    lockTime := rfl
    prevout := rfl
    sequence := rfl
    value := rfl
    token := fun _ => rfl
    prevouts := fun bound => nomatch free.symm.trans bound
    sequences := fun bound => nomatch free.symm.trans bound
    outputs := fun _ other => (other single).elim
    ownOutput := fun _ => rfl
    allSpent := fun asked => nomatch unasked.symm.trans asked }
  exact ⟨⟨by decide, by decide⟩, agree,
    digest_eq_of_agreeOnSelected (by decide) (by decide) agree rfl⟩

end SigHash
end SpendRules

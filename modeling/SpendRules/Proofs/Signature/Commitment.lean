import SpendRules.Proofs.Signature.Digest
import SpendRules.Proofs.Transaction

namespace SpendRules

/-!
# What the newer message commits to

The newer message lists its parts without tags.  Most of them have a fixed
width, so their places can be counted from both ends.  Between these stand the
token of the spent output, if there is one, and the script code behind its
length.  Both are read off from the front: a token is announced by its marker,
and a script by its length.

The marker is itself the length of a script.  A message with a token and a
message without one can therefore coincide, if the script code of the second
consists of the token and of the script code of the first, with its length,
and comes to exactly as many bytes as the marker says.  This is the only way in
which two messages coincide, and it does occur.
-/

/-- A single byte below all markers of wider forms is a whole integer. -/
theorem VarInt.eq_of_encode_append_eq_cons {value : Nat} {first : UInt8} {rest tail : Bytes}
    (fits : value < 2 ^ 64) (small : first.toNat < 0xfd)
    (same : encode value ++ rest = first :: tail) :
    value = first.toNat ∧ rest = tail :=
  Read.recognizes_varint.cancel (spelled_encode fits) (.one first small) same

/-- The script consists of a token and another script behind its length, and it
has as many bytes as the marker of tokens says. -/
structure Script.Mimics (code : Script) (token : Token) (inner : Script) : Prop where
  bytes_eq : code.bytes = token.encode ++ Script.format.encode inner
  length_eq : code.bytes.length = Token.marker.toNat

instance (code : Script) (token : Token) (inner : Script) : Decidable (code.Mimics token inner) :=
  decidable_of_iff (code.bytes = token.encode ++ Script.format.encode inner ∧
    code.bytes.length = Token.marker.toNat)
      ⟨fun parts => ⟨parts.1, parts.2⟩, fun mimics => ⟨mimics.1, mimics.2⟩⟩

namespace SigHash

/-! ## Parts of fixed width -/

section

variable {front otherFront : Bytes}

private theorem append_word_inj {width value other : Nat}
    (same : front ++ Bytes.ofNatLE width value = otherFront ++ Bytes.ofNatLE width other) :
    front = otherFront ∧ Bytes.ofNatLE width value = Bytes.ofNatLE width other := by
  apply List.append_inj' same
  rw [Bytes.length_ofNatLE, Bytes.length_ofNatLE]

private theorem append_word32_inj {value other : UInt32}
    (same : front ++ Bytes.ofNatLE 4 value.toNat = otherFront ++ Bytes.ofNatLE 4 other.toNat) :
    front = otherFront ∧ value = other := by
  rcases append_word_inj same with ⟨fronts, words⟩
  exact ⟨fronts, UInt32.toNat_inj.mp (Bytes.ofNatLE_inj value.toNat_lt other.toNat_lt words)⟩

private theorem append_hash_inj {value other : Hash256}
    (same : front ++ value.bytes = otherFront ++ other.bytes) :
    front = otherFront := by
  refine (List.append_inj' same ?_).1
  rw [value.length_eq, other.length_eq]

end

variable {context other : SpendingContext} {code otherCode : Script}
  {hashType otherType : SigHashType}
  {rules : RuleSet} {message utxos otherUtxos : Bytes}

/-- The parts in front of token and script code. -/
private def front (context : SpendingContext) (hashType : SigHashType) (utxos : Bytes) : Bytes :=
  Bytes.ofNatLE 4 context.tx.version.toNat ++ (committedPrevouts context hashType).bytes ++ utxos ++
    (committedSequences context hashType).bytes ++ OutPoint.format.encode context.input.prevout

/-- The parts behind token and script code. -/
private def back (context : SpendingContext) (hashType : SigHashType) : Bytes :=
  Bytes.ofNatLE 8 context.spent.value.toNat ++ Bytes.ofNatLE 4 context.input.sequence.toNat ++
    (committedOutputs context hashType).bytes ++ Bytes.ofNatLE 4 context.tx.lockTime.toNat ++
    Bytes.ofNatLE 4 hashType.raw.toNat

private theorem forkIdMessage_eq_ok_iff :
    forkIdMessage context code hashType rules = .ok message ↔ ∃ utxos,
      committedUtxos context hashType rules = .ok utxos ∧
        message = front context hashType utxos ++
          (committedToken context rules ++ Script.format.encode code) ++
          back context hashType := by
  unfold forkIdMessage front back
  cases committedUtxos context hashType rules with
  | error failure => simp [bind, Except.bind]
  | ok utxos => simp [bind, Except.bind, pure, Except.pure, eq_comm]

private theorem length_committedUtxos
    (committed : committedUtxos context hashType rules = .ok utxos) :
    utxos.length = if hashType.hasUtxos then 32 else 0 := by
  unfold committedUtxos at committed
  cases asks : hashType.hasUtxos with
  | false =>
      rw [asks, if_neg Bool.false_ne_true] at committed
      cases committed
      rfl
  | true =>
      rw [asks, if_pos rfl] at committed
      split at committed
      · cases committed
      split at committed
      · cases committed
        rw [if_pos rfl]
        exact (hashOutputs _).length_eq
      · cases committed

private theorem length_front :
    (front context hashType utxos).length = 104 + utxos.length := by
  simp only [front, OutPoint.format, List.length_append, Bytes.length_ofNatLE, Hash256.length_eq]
  omega

private theorem length_back : (back context hashType).length = 52 := by
  simp only [back, List.length_append, Bytes.length_ofNatLE, Hash256.length_eq]

private theorem eq_of_front_eq (sameLength : utxos.length = otherUtxos.length)
    (same : front context hashType utxos = front other otherType otherUtxos) :
    context.tx.version = other.tx.version ∧ context.input.prevout = other.input.prevout := by
  have prevoutLengths : (OutPoint.format.encode context.input.prevout).length =
      (OutPoint.format.encode other.input.prevout).length := by
    simp only [OutPoint.format, List.length_append, Bytes.length_ofNatLE, Hash256.length_eq]
  rcases List.append_inj' same prevoutLengths with ⟨beforePrevout, prevouts⟩
  have prevout := (OutPoint.format_lawful.encode_append_inj trivial trivial
    (congrArg (· ++ ([] : Bytes)) prevouts)).1
  have beforeUtxos := (List.append_inj' (append_hash_inj beforePrevout) sameLength).1
  have versions := append_hash_inj beforeUtxos
  exact ⟨(append_word32_inj (congrArg (([] : Bytes) ++ ·) versions)).2, prevout⟩

private theorem eq_of_back_eq (same : back context hashType = back other otherType) :
    context.spent.value = other.spent.value ∧ context.input.sequence = other.input.sequence ∧
      context.tx.lockTime = other.tx.lockTime ∧ hashType = otherType := by
  rcases append_word32_inj same with ⟨beforeType, raws⟩
  rcases append_word32_inj beforeType with ⟨beforeLockTime, lockTimes⟩
  rcases append_word32_inj (append_hash_inj beforeLockTime) with ⟨values, sequences⟩
  have value := Bytes.ofNatLE_inj context.spent.value.toNat_lt other.spent.value.toNat_lt values
  refine ⟨UInt64.toNat_inj.mp value, sequences, lockTimes, ?_⟩
  cases hashType
  cases otherType
  exact congrArg SigHashType.mk raws

/-! ## Token and script code -/

/-- What follows the marker of a token is also what follows the length of a
script, if this script mimics the token. -/
private theorem mimics_of_encode_eq {token : Token} (fits : code.bytes.length < 2 ^ 64)
    (same : Script.format.encode code = Token.marker :: token.encode ++
      Script.format.encode otherCode) :
    code.Mimics token otherCode := by
  have split := VarInt.eq_of_encode_append_eq_cons fits (by decide) same
  exact ⟨split.2, split.1⟩

/-- The spent output has no token that cannot be written. -/
def HasValidToken (context : SpendingContext) : Prop :=
  forall token, context.spent.token = some token -> token.validate = .ok ()

private theorem committedToken_of_some {token : Token} (active : rules.enables .tokens = true)
    (present : context.spent.token = some token) :
    committedToken context rules = Token.marker :: token.encode := by
  unfold committedToken
  rw [if_pos active, present]

/-- Token and script code are read off from the front, unless one side mimics
the other. -/
private theorem eq_or_mimics (active : rules.enables .tokens = true) (valid : HasValidToken context)
    (otherValid : HasValidToken other) (fits : code.bytes.length < 2 ^ 64)
    (otherFits : otherCode.bytes.length < 2 ^ 64)
    (same : committedToken context rules ++ Script.format.encode code =
      committedToken other rules ++ Script.format.encode otherCode) :
    (context.spent.token = other.spent.token ∧ code = otherCode) ∨
      (∃ token, context.spent.token = none ∧ other.spent.token = some token ∧
        code.Mimics token otherCode) ∨
      (∃ token, context.spent.token = some token ∧ other.spent.token = none ∧
        otherCode.Mimics token code) := by
  cases present : context.spent.token with
  | none =>
      rw [committedToken_of_none present, List.nil_append] at same
      cases otherPresent : other.spent.token with
      | none =>
          rw [committedToken_of_none otherPresent, List.nil_append] at same
          have codes := Script.format_lawful.encode_append_inj fits otherFits
            (congrArg (· ++ ([] : Bytes)) same)
          exact Or.inl ⟨rfl, codes.1⟩
      | some token =>
          rw [committedToken_of_some active otherPresent] at same
          exact Or.inr (Or.inl ⟨token, rfl, rfl, mimics_of_encode_eq fits same⟩)
  | some token =>
      rw [committedToken_of_some active present] at same
      cases otherPresent : other.spent.token with
      | none =>
          rw [committedToken_of_none otherPresent, List.nil_append] at same
          exact Or.inr (Or.inr ⟨token, rfl, rfl, mimics_of_encode_eq otherFits same.symm⟩)
      | some otherToken =>
          rw [committedToken_of_some active otherPresent] at same
          have tokens := Token.format_lawful.encode_append_inj (valid token present)
            (otherValid otherToken otherPresent) (List.cons.inj same).2
          have codes := Script.format_lawful.encode_append_inj fits otherFits
            (congrArg (· ++ ([] : Bytes)) tokens.2)
          exact Or.inl ⟨congrArg some tokens.1, codes.1⟩

/-! ## The whole message -/

/-- Two spendings with one message have the same hash type, version, outpoint,
spent value, sequence number and lock time.  They also have the same token, or
none, and the same script code, unless one of them carries a token and the
script code of the other one mimics it. -/
theorem eq_of_forkIdMessage_eq {context other : SpendingContext} {code otherCode : Script}
    {hashType otherType : SigHashType} {rules : RuleSet} {message : Bytes}
    (active : rules.enables .tokens = true) (valid : HasValidToken context)
    (otherValid : HasValidToken other) (fits : code.bytes.length < 2 ^ 63)
    (otherFits : otherCode.bytes.length < 2 ^ 63)
    (composed : forkIdMessage context code hashType rules = .ok message)
    (otherComposed : forkIdMessage other otherCode otherType rules = .ok message) :
    (hashType = otherType ∧ context.tx.version = other.tx.version ∧
        context.input.prevout = other.input.prevout ∧ context.spent.value = other.spent.value ∧
        context.input.sequence = other.input.sequence ∧ context.tx.lockTime = other.tx.lockTime) ∧
      ((context.spent.token = other.spent.token ∧ code = otherCode) ∨
        (∃ token, context.spent.token = none ∧ other.spent.token = some token ∧
          code.Mimics token otherCode) ∨
        (∃ token, context.spent.token = some token ∧ other.spent.token = none ∧
          otherCode.Mimics token code)) := by
  rcases forkIdMessage_eq_ok_iff.mp composed with ⟨utxos, committed, rfl⟩
  rcases forkIdMessage_eq_ok_iff.mp otherComposed with ⟨otherUtxos, otherCommitted, same⟩
  rcases List.append_inj' same (length_back.trans length_back.symm) with ⟨beforeBack, backs⟩
  rcases eq_of_back_eq backs with ⟨values, sequences, lockTimes, rfl⟩
  -- The hash type is the same, so both messages hold as many hashes in front.
  have sameLength :=
    (length_committedUtxos committed).trans (length_committedUtxos otherCommitted).symm
  have frontLengths : (front context hashType utxos).length =
      (front other hashType otherUtxos).length := by
    rw [length_front, length_front, sameLength]
  rcases List.append_inj beforeBack frontLengths with ⟨fronts, middles⟩
  rcases eq_of_front_eq sameLength fronts with ⟨versions, prevouts⟩
  refine ⟨⟨rfl, versions, prevouts, values, sequences, lockTimes⟩, ?_⟩
  exact eq_or_mimics active valid otherValid (Nat.lt_trans fits (by decide))
    (Nat.lt_trans otherFits (by decide))
    middles

/-! ## Two messages that coincide -/

/-- A script code that mimics the token of another spending, of the same input
and value, gives the same message without a token. -/
theorem forkIdMessage_eq_of_mimics {token : Token} (active : rules.enables .tokens = true)
    (tx : context.tx = other.tx) (index : context.index = other.index)
    (value : context.spent.value = other.spent.value) (noUtxos : hashType.hasUtxos = false)
    (bare : context.spent.token = none) (present : other.spent.token = some token)
    (mimics : code.Mimics token otherCode) :
    forkIdMessage context code hashType rules = forkIdMessage other otherCode hashType rules := by
  have input : context.input = other.input := SpendingContext.input_congr tx index
  have encoded : Script.format.encode code = Token.marker :: token.encode ++
      Script.format.encode otherCode := by
    change VarInt.encode code.bytes.length ++ code.bytes = _
    rw [mimics.length_eq, mimics.bytes_eq]
    rfl
  unfold forkIdMessage committedUtxos committedPrevouts committedSequences committedOutputs
  rw [committedToken_of_none bare, committedToken_of_some active present, encoded, noUtxos, tx,
    index, value, input]
  simp only [Bool.false_eq_true, if_false, List.append_assoc, List.nil_append]

/-- The rules under which the newer message is used and holds tokens. -/
private def tokenRules : RuleSet :=
  RuleSet.ofFlags (Rule.forkId.publicMask ||| Rule.tokens.publicMask)

/-- The hash type of signatures that commit to the chain and to all outputs. -/
private def committing : SigHashType :=
  { raw := 0x41 }

/-- The smallest token: an amount of one. -/
private def amountOfOne : Token :=
  { category := Hash256.zero, amount := some 1, nft := none }

/-- The spending of an output that may carry a token. -/
private def spendingOf (token : Option Token) : SpendingContext where
  tx :=
    { version := 2
      inputs := [{ prevout := OutPoint.null, script := { bytes := [] }, sequence := 0 }]
      outputs := []
      lockTime := 0 }
  index := 0
  input := { prevout := OutPoint.null, script := { bytes := [] }, sequence := 0 }
  input_eq := rfl
  spent := { value := 1000, script := { bytes := [] }, token := token }
  allSpent := none
  allSpent_eq := fun _ absent => nomatch absent

/-- A script of operations that do nothing.  There are as many as leave room
for a token in a script of the length that the marker says. -/
private def shortCode : Script :=
  { bytes := List.replicate 204 0x61 }

/-- The token and the short script behind its length, as one script. -/
private def mimickingCode : Script :=
  { bytes := amountOfOne.encode ++ Script.format.encode shortCode }

private theorem mimickingCode_mimics : mimickingCode.Mimics amountOfOne shortCode :=
  ⟨rfl, by decide +kernel⟩

private theorem hasValidToken_spendingOf_none : HasValidToken (spendingOf none) :=
  fun _ absent => nomatch absent

private theorem hasValidToken_spendingOf_amount :
    HasValidToken (spendingOf (some amountOfOne)) := by
  intro token present
  cases present
  rfl

private theorem forkIdMessage_mimickingCode :
    forkIdMessage (spendingOf none) mimickingCode committing tokenRules =
      forkIdMessage (spendingOf (some amountOfOne)) shortCode committing tokenRules :=
  forkIdMessage_eq_of_mimics (by decide) rfl rfl rfl (by decide) rfl rfl mimickingCode_mimics

/-- The message is that of an output without a token, and it is that of an
output with a valid token and another script code. -/
theorem forkIdMessage_coincides :
    (tokenRules.enables .forkId = true ∧ tokenRules.enables .tokens = true ∧
        committing.hasForkId = true) ∧
      (HasValidToken (spendingOf none) ∧ HasValidToken (spendingOf (some amountOfOne))) ∧
      (mimickingCode.bytes.length < 2 ^ 63 ∧ shortCode.bytes.length < 2 ^ 63) ∧
      (exists message, forkIdMessage (spendingOf none) mimickingCode committing tokenRules =
          .ok message ∧
        forkIdMessage (spendingOf (some amountOfOne)) shortCode committing tokenRules =
          .ok message) ∧
      (spendingOf none).spent.token ≠ (spendingOf (some amountOfOne)).spent.token ∧
      mimickingCode ≠ shortCode := by
  refine ⟨by decide, ⟨hasValidToken_spendingOf_none, hasValidToken_spendingOf_amount⟩,
    by decide +kernel, ?_, by decide, by decide +kernel⟩
  exact ⟨_, forkIdMessage_mimickingCode.trans rfl, rfl⟩

/-- What these two messages still agree on. -/
theorem eq_of_forkIdMessage_mimickingCode :
    exists message, forkIdMessage (spendingOf none) mimickingCode committing tokenRules =
        .ok message ∧
      forkIdMessage (spendingOf (some amountOfOne)) shortCode committing tokenRules = .ok message ∧
      (spendingOf none).spent.value = (spendingOf (some amountOfOne)).spent.value ∧
      mimickingCode.Mimics amountOfOne shortCode := by
  have otherComposed : exists message,
      forkIdMessage (spendingOf (some amountOfOne)) shortCode committing tokenRules =
        .ok message := ⟨_, rfl⟩
  rcases otherComposed with ⟨message, otherComposed⟩
  have composed := forkIdMessage_mimickingCode.trans otherComposed
  have agree := eq_of_forkIdMessage_eq (by decide)
    hasValidToken_spendingOf_none hasValidToken_spendingOf_amount
    (by decide +kernel) (by decide +kernel) composed otherComposed
  refine ⟨message, composed, otherComposed, agree.1.2.2.2.1, ?_⟩
  rcases agree.2 with ⟨tokens, _⟩ | ⟨token, _, present, mimics⟩ | ⟨_, present, _⟩
  · exact nomatch tokens
  · cases present
    exact mimics
  · exact nomatch present

end SigHash
end SpendRules

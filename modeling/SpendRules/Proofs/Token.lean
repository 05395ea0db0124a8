import SpendRules.Proofs.Codec.Lawful
import SpendRules.Token

namespace SpendRules
namespace Token

/-!
# The form of tokens

A token that obeys its rules is written as its category, one byte of flags, a
commitment when there is one and an amount when there is one.  The flags are
fixed by the token, so the only freedom of a spelling lies in the two
variable-width integers.  A token that breaks a rule has no spelling: the
format is lawful with exactly the valid tokens as those that can be written.
-/

/-- The rules of well-formed tokens, one by one. -/
theorem validate_eq_ok_iff {token : Token} :
    token.validate = .ok () ↔
      (token.nft.isSome = true ∨ token.amount.isSome = true) ∧
        (forall amount, token.amount = some amount -> 0 < amount) ∧
        token.commitment.length ≤ maxCommitmentLength := by
  rcases token with ⟨category, amount, nft⟩
  unfold validate
  cases amount with
  | none => cases nft <;> simp
  | some amount =>
      have positive : ¬ amount ≤ 0 ↔ 0 < amount := Int64.not_le
      by_cases bounded : amount ≤ 0 <;> cases nft <;> simp [← positive, bounded]

/-! ## The byte of flags -/

/-- The flags that announce the given parts. -/
private def composeFlags (item : Option Capability) (committed counted : Bool) : UInt8 :=
  (match item with
    | some capability => nftFlag ||| capability.toByte ||| (if committed then commitmentFlag else 0)
    | none => 0) ||| (if counted then amountFlag else 0)

private theorem flags_eq (token : Token) :
    token.flags = composeFlags token.capability? (!token.commitment.isEmpty)
      token.amount.isSome := by
  rcases token with ⟨category, amount, nft⟩
  rcases nft with _ | ⟨capability, commitment⟩
  · rfl
  · cases commitment <;> rfl

private theorem reserved_composeFlags (item : Option Capability) (committed counted : Bool) :
    composeFlags item committed counted &&& reservedFlag = 0 := by
  rcases item with _ | capability
  · cases committed <;> cases counted <;> decide
  · cases capability <;> cases committed <;> cases counted <;> decide

private theorem capability_composeFlags (item : Option Capability) (committed counted : Bool) :
    Capability.ofByte? (composeFlags item committed counted &&& capabilityMask) =
      some (item.getD .immutable) := by
  rcases item with _ | capability
  · cases committed <;> cases counted <;> decide
  · cases capability <;> cases committed <;> cases counted <;> decide

private theorem nft_composeFlags (item : Option Capability) (committed counted : Bool) :
    (composeFlags item committed counted &&& nftFlag != 0) = item.isSome := by
  rcases item with _ | capability
  · cases committed <;> cases counted <;> decide
  · cases capability <;> cases committed <;> cases counted <;> decide

private theorem commitment_composeFlags (item : Option Capability) (committed counted : Bool) :
    (composeFlags item committed counted &&& commitmentFlag != 0) = (item.isSome && committed) := by
  rcases item with _ | capability
  · cases committed <;> cases counted <;> decide
  · cases capability <;> cases committed <;> cases counted <;> decide

private theorem amount_composeFlags (item : Option Capability) (committed counted : Bool) :
    (composeFlags item committed counted &&& amountFlag != 0) = counted := by
  rcases item with _ | capability
  · cases committed <;> cases counted <;> decide
  · cases capability <;> cases committed <;> cases counted <;> decide

set_option maxRecDepth 4096 in
/-- A byte without the reserved flag is determined by the parts it announces,
unless it announces parts of an item without an item. -/
private theorem composeFlags_fields (flags : UInt8) (capability : Capability) :
    flags &&& reservedFlag = 0 ->
    Capability.ofByte? (flags &&& capabilityMask) = some capability ->
    ((flags &&& nftFlag != 0) = false ->
      (flags &&& commitmentFlag != 0) = false ∧ capability = .immutable) ->
    composeFlags (if (flags &&& nftFlag != 0) = true then some capability else none)
      (flags &&& commitmentFlag != 0) (flags &&& amountFlag != 0) = flags := by
  -- There are 256 bytes and three capabilities.
  cases flags with
  | ofBitVec flags =>
      cases flags with
      | ofFin flags => cases capability <;> revert flags <;> decide

/-- What a byte of flags announces. -/
private structure Announces (flags : UInt8) (capability : Capability)
    (hasNft hasCommitment hasAmount : Bool) : Prop where
  unreserved : flags &&& reservedFlag = 0
  capability_eq : Capability.ofByte? (flags &&& capabilityMask) = some capability
  nft_eq : (flags &&& nftFlag != 0) = hasNft
  commitment_eq : (flags &&& commitmentFlag != 0) = hasCommitment
  amount_eq : (flags &&& amountFlag != 0) = hasAmount

/-- The flags of a token announce its parts. -/
private theorem announces_flags (token : Token) :
    Announces token.flags (token.capability?.getD .immutable) token.nft.isSome
      (!token.commitment.isEmpty)
      token.amount.isSome := by
  rw [flags_eq]
  refine ⟨reserved_composeFlags _ _ _, capability_composeFlags _ _ _, ?_, ?_,
    amount_composeFlags _ _ _⟩
  · rw [nft_composeFlags, capability?, Option.isSome_map]
  · rw [commitment_composeFlags, capability?, Option.isSome_map, commitment]
    cases token.nft <;> rfl

/-- Two tokens with the parts that a byte of flags announces have these flags. -/
private theorem flags_eq_of_announces {token : Token} {flags : UInt8}
    (announces : Announces flags (token.capability?.getD .immutable) token.nft.isSome
      (!token.commitment.isEmpty) token.amount.isSome) : token.flags = flags := by
  have determined := composeFlags_fields flags _ announces.unreserved announces.capability_eq
  rw [announces.nft_eq, announces.commitment_eq, announces.amount_eq] at determined
  rw [flags_eq, ← determined]
  · rcases token with ⟨category, amount, nft⟩
    cases nft <;> rfl
  · intro absent
    rcases token with ⟨category, amount, nft⟩
    cases nft with
    | none => exact ⟨rfl, rfl⟩
    | some nft => cases absent

/-! ## Commitments and amounts -/

/-- The spellings of a commitment: nothing when it is empty, else the
commitment behind a spelling of its length. -/
def CommitmentSpelled (commitment taken : Bytes) : Prop :=
  if commitment.isEmpty then taken = []
  else ∃ front, VarInt.Spelled commitment.length front ∧ taken = front ++ commitment

/-- The spellings of an amount: nothing when there is none, else any spelling
of its number. -/
def AmountSpelled (amount : Option Int64) (taken : Bytes) : Prop :=
  match amount with
  | some amount => VarInt.Spelled (amountWord amount) taken
  | none => taken = []

/-- The spellings of a valid token. -/
def spelling : Spelling Token := fun token taken =>
  token.validate = .ok () ∧ ∃ commitment amount, CommitmentSpelled token.commitment commitment ∧
    AmountSpelled token.amount amount ∧
      taken = token.category.bytes ++ token.flags :: (commitment ++ amount)

private theorem recognizes_readCommitment :
    readCommitment.Recognizes (fun commitment taken =>
      commitment.isEmpty = false ∧ commitment.length ≤ maxCommitmentLength ∧
        CommitmentSpelled commitment taken) := by
  have checked (commitment : Bytes) := ((Read.recognizes_pure commitment).unless
    (commitment.length > maxCommitmentLength) (.tokenEncodingInvalid .commitmentTooLong)).unless
      (commitment.isEmpty = true) (.tokenEncodingInvalid .emptyCommitment)
  refine @Read.Recognizes.congr _ readCommitment _ _ (Read.recognizes_prefixedBytes.bind checked) ?_
  intro commitment taken
  constructor
  · rintro ⟨_, _, _, ⟨front, spelled, rfl⟩, ⟨nonempty, short, rfl, rfl⟩, rfl⟩
    rw [Bool.not_eq_true] at nonempty
    refine ⟨nonempty, Nat.le_of_not_lt short, ?_⟩
    rw [CommitmentSpelled, nonempty, if_neg Bool.false_ne_true, List.append_nil]
    exact ⟨front, spelled, rfl⟩
  · rintro ⟨nonempty, short, spelled⟩
    rw [CommitmentSpelled, nonempty, if_neg Bool.false_ne_true] at spelled
    refine ⟨commitment, taken, [], spelled, ⟨?_, Nat.not_lt_of_le short, rfl, rfl⟩,
      (List.append_nil taken).symm⟩
    rw [nonempty]
    exact Bool.false_ne_true

private theorem recognizes_announcedCommitment (announced : Bool) :
    Read.Recognizes (if announced then readCommitment else pure []) (fun commitment taken =>
      (!commitment.isEmpty) = announced ∧ commitment.length ≤ maxCommitmentLength ∧
        CommitmentSpelled commitment taken) := by
  cases announced with
  | true =>
      refine recognizes_readCommitment.congr ?_
      intro commitment taken
      rw [Bool.not_eq_true']
  | false =>
      refine (Read.recognizes_pure []).congr ?_
      intro commitment taken
      constructor
      · rintro ⟨rfl, rfl⟩
        exact ⟨rfl, Nat.zero_le _, rfl⟩
      · rintro ⟨empty, _, spelled⟩
        rw [Bool.not_eq_false'] at empty
        rw [CommitmentSpelled, if_pos empty] at spelled
        exact ⟨List.isEmpty_iff.mp empty, spelled⟩

/-- A positive amount is written as its own number. -/
private theorem amountWord_ofNat {number : Nat} (small : number ≤ maxAmount) :
    amountWord (Int64.ofNat number) = number := by
  unfold maxAmount at small
  rw [amountWord, Int64.toUInt64_ofNat']
  exact UInt64.toNat_ofNat_of_lt' (Nat.lt_of_le_of_lt small (by decide))

private theorem ofNat_pos {number : Nat} (positive : number ≠ 0) (small : number ≤ maxAmount) :
    0 < Int64.ofNat number := by
  unfold maxAmount at small
  rw [Int64.lt_iff_toInt_lt, Int64.toInt_ofNat_of_lt (by omega), Int64.toInt_zero]
  omega

private theorem ofNat_amountWord (amount : Int64) : Int64.ofNat (amountWord amount) = amount := by
  have word : UInt64.ofNat amount.toUInt64.toNat = amount.toUInt64 := UInt64.ofNat_toNat
  exact congrArg UInt64.toInt64 word

/-- The word of a positive amount is a number that the decoder admits. -/
private theorem amountWord_bounds {amount : Int64} (positive : 0 < amount) :
    amountWord amount ≠ 0 ∧ amountWord amount ≤ maxAmount := by
  rw [Int64.lt_iff_toInt_lt, Int64.toInt_zero] at positive
  have signed := BitVec.toInt_eq_toNat_cond amount.toBitVec
  rw [Int64.toInt_toBitVec] at signed
  change amount.toInt = if 2 * amountWord amount < 2 ^ 64 then (amountWord amount : Int)
    else (amountWord amount : Int) - (2 ^ 64 : Nat) at signed
  have word : amountWord amount < 2 ^ 64 := amount.toUInt64.toNat_lt
  unfold maxAmount
  split at signed <;> omega

private theorem recognizes_readAmount :
    readAmount.Recognizes
      (fun amount taken => 0 < amount ∧ VarInt.Spelled (amountWord amount) taken) := by
  have checked (number : Nat) := (Read.recognizes_pure (Int64.ofNat number)).unless
    (number = 0 ∨ number > maxAmount) (.tokenEncodingInvalid .amountOutOfRange)
  refine @Read.Recognizes.congr _ readAmount _ _ (Read.recognizes_varint.bind checked) ?_
  intro amount taken
  constructor
  · rintro ⟨number, front, _, spelled, ⟨inRange, rfl, rfl⟩, rfl⟩
    rw [not_or, Nat.not_lt] at inRange
    rw [amountWord_ofNat inRange.2, List.append_nil]
    exact ⟨ofNat_pos inRange.1 inRange.2, spelled⟩
  · rintro ⟨positive, spelled⟩
    have bounds := amountWord_bounds positive
    refine ⟨amountWord amount, taken, [], spelled, ⟨?_, (ofNat_amountWord amount).symm, rfl⟩,
      (List.append_nil taken).symm⟩
    rw [not_or, Nat.not_lt]
    exact bounds

private theorem recognizes_announcedAmount (announced : Bool) :
    Read.Recognizes (if announced then some <$> readAmount else pure none) (fun amount taken =>
      amount.isSome = announced ∧ (forall value, amount = some value -> 0 < value) ∧
        AmountSpelled amount taken) := by
  cases announced with
  | true =>
      refine (recognizes_readAmount.map some).congr ?_
      intro amount taken
      constructor
      · rintro ⟨value, ⟨positive, spelled⟩, rfl⟩
        exact ⟨rfl, fun _ same => Option.some.inj same ▸ positive, spelled⟩
      · rintro ⟨present, positive, spelled⟩
        rcases Option.isSome_iff_exists.mp present with ⟨value, rfl⟩
        exact ⟨value, ⟨positive value rfl, spelled⟩, rfl⟩
  | false =>
      refine (Read.recognizes_pure none).congr ?_
      intro amount taken
      constructor
      · rintro ⟨rfl, rfl⟩
        refine ⟨rfl, ?_, rfl⟩
        intro value impossible
        cases impossible
      · rintro ⟨absent, _, spelled⟩
        cases amount with
        | none => exact ⟨rfl, spelled⟩
        | some value => cases absent

/-! ## The whole token -/

private theorem readParts_eq (category : Hash256) (capability : Capability)
    (hasNft hasCommitment hasAmount : Bool) :
    readParts category capability hasNft hasCommitment hasAmount =
      ((if hasCommitment then readCommitment else pure []) >>= fun commitment =>
        (if hasAmount then some <$> readAmount else pure none) >>= fun amount =>
          pure (Token.mk category amount
            (if hasNft then some ⟨capability, commitment⟩ else none))) := by
  cases hasCommitment <;> cases hasAmount <;> rfl

/-- Behind the flags stand the announced parts.  What the flags say about an
item has to be consistent, and at least one part has to be announced. -/
private theorem recognizes_readParts (category : Hash256) {flags : UInt8} {capability : Capability}
    {hasNft hasCommitment hasAmount : Bool}
    (announces : Announces flags capability hasNft hasCommitment hasAmount)
    (consistent : hasNft = false -> hasCommitment = false ∧ capability = .immutable)
    (nonvoid : hasNft = true ∨ hasAmount = true) :
    (readParts category capability hasNft hasCommitment hasAmount).Recognizes (fun token taken =>
      token.category = category ∧ token.flags = flags ∧ token.validate = .ok () ∧
        ∃ commitment amount, CommitmentSpelled token.commitment commitment ∧
          AmountSpelled token.amount amount ∧ taken = commitment ++ amount) := by
  rw [readParts_eq]
  refine ((recognizes_announcedCommitment hasCommitment).bind fun commitment =>
    (recognizes_announcedAmount hasAmount).bind fun amount => Read.recognizes_pure _).congr ?_
  intro token taken
  constructor
  · rintro ⟨commitment, front, _, ⟨rfl, short, commitmentSpelled⟩,
      ⟨amount, middle, _, ⟨rfl, positive, amountSpelled⟩, ⟨rfl, rfl⟩, rfl⟩, rfl⟩
    have same : Token.commitment
        ⟨category, amount, if hasNft then some ⟨capability, commitment⟩ else none⟩ =
        commitment := by
      cases hasNft with
      | true => rfl
      | false =>
          have empty := (consistent rfl).1
          rw [Bool.not_eq_false', List.isEmpty_iff] at empty
          exact empty.symm
    refine ⟨rfl, ?_, ?_, front, middle, ?_, amountSpelled, by rw [List.append_nil]⟩
    · apply flags_eq_of_announces
      rw [same]
      cases hasNft with
      | true => exact announces
      | false => rw [(consistent rfl).2] at announces; exact announces
    · refine validate_eq_ok_iff.mpr ⟨?_, positive, same.symm ▸ short⟩
      rcases nonvoid with rfl | present
      · exact Or.inl rfl
      · exact Or.inr present
    · rw [same]
      exact commitmentSpelled
  · rintro ⟨rfl, rfl, valid, front, back, commitmentSpelled, amountSpelled, rfl⟩
    have own := announces_flags token
    have capability_eq := Option.some.inj (announces.capability_eq.symm.trans own.capability_eq)
    have nft_eq := announces.nft_eq.symm.trans own.nft_eq
    have commitment_eq := announces.commitment_eq.symm.trans own.commitment_eq
    have amount_eq := announces.amount_eq.symm.trans own.amount_eq
    rcases validate_eq_ok_iff.mp valid with ⟨_, positive, short⟩
    refine ⟨token.commitment, front, back, ⟨commitment_eq.symm, short, commitmentSpelled⟩,
      ⟨token.amount, back, [], ⟨amount_eq.symm, positive, amountSpelled⟩, ⟨?_, rfl⟩,
        (List.append_nil back).symm⟩, rfl⟩
    rw [capability_eq, nft_eq]
    rcases token with ⟨category, amount, nft⟩
    cases nft <;> rfl

/-- Behind a category, a token is taken exactly when its flags are the given
byte. -/
private theorem recognizes_readBehindFlags (category : Hash256) (flags : UInt8) :
    (readBehindFlags category flags).Recognizes (fun token taken =>
      token.category = category ∧ token.flags = flags ∧ token.validate = .ok () ∧
        ∃ commitment amount, CommitmentSpelled token.commitment commitment ∧
          AmountSpelled token.amount amount ∧ taken = commitment ++ amount) := by
  unfold readBehindFlags
  by_cases reserved : (flags &&& reservedFlag != 0) = true
  · rw [if_pos reserved]
    refine Read.recognizes_throw _ ?_
    rintro token taken ⟨_, rfl, _⟩
    rw [(announces_flags token).unreserved] at reserved
    cases reserved
  rw [if_neg reserved]
  cases known : Capability.ofByte? (flags &&& capabilityMask) with
  | none =>
      refine Read.recognizes_throw _ ?_
      rintro token taken ⟨_, rfl, _⟩
      rw [(announces_flags token).capability_eq] at known
      cases known
  | some capability =>
      dsimp only
      split
      · next inconsistent =>
          refine Read.recognizes_throw _ ?_
          rintro token taken ⟨_, rfl, _⟩
          have own := announces_flags token
          have capability_eq := Option.some.inj (known.symm.trans own.capability_eq)
          rw [own.nft_eq, own.commitment_eq, capability_eq] at inconsistent
          rcases token with ⟨category, amount, nft⟩
          cases nft <;> cases inconsistent
      split
      · next void =>
          refine Read.recognizes_throw _ ?_
          rintro token taken ⟨_, rfl, valid, _⟩
          have own := announces_flags token
          rw [own.nft_eq, own.amount_eq] at void
          rcases (validate_eq_ok_iff.mp valid).1 with present | present <;>
            simp [present] at void
      · next consistent nonvoid =>
          have unreserved : flags &&& reservedFlag = 0 := by simpa using reserved
          refine recognizes_readParts category ⟨unreserved, known, rfl, rfl, rfl⟩ ?_ ?_
          · intro absent
            rw [absent] at consistent
            simpa using consistent
          · rw [Bool.and_eq_true, Classical.not_and_iff_not_or_not] at nonvoid
            simpa using nonvoid

private theorem commitmentSpelled_commitmentBytes {commitment : Bytes}
    (short : commitment.length ≤ maxCommitmentLength) :
    CommitmentSpelled commitment (commitmentBytes commitment) := by
  unfold CommitmentSpelled commitmentBytes
  by_cases empty : commitment.isEmpty = true
  · rw [if_pos empty, if_pos empty]
  · rw [if_neg empty, if_neg empty]
    exact Bytes.lengthPrefixed_spelled (Nat.lt_of_le_of_lt short (by decide))

private theorem shortens_commitmentBytes {commitment taken : Bytes}
    (spelled : CommitmentSpelled commitment taken) :
    Bytes.Shortens (commitmentBytes commitment) taken := by
  unfold CommitmentSpelled at spelled
  unfold commitmentBytes
  by_cases empty : commitment.isEmpty = true
  · rw [if_pos empty] at spelled ⊢
    exact Bytes.Shortens.of_eq spelled.symm
  · rw [if_neg empty] at spelled ⊢
    rcases spelled with ⟨front, spelled, rfl⟩
    exact (Bytes.Shortens.refl commitment).lengthPrefixed spelled

/-- Every token that obeys the rules is written and read, and no other token is
ever read. -/
theorem format_lawful : format.Lawful spelling (fun token => token.validate = .ok ()) where
  recognizes := by
    refine @Read.Recognizes.congr _ format.read _ _ (Read.recognizes_hash256.bind fun category =>
      Read.recognizes_byte.bind fun flags => recognizes_readBehindFlags category flags) ?_
    intro token taken
    constructor
    · rintro ⟨_, _, _, rfl,
        ⟨_, _, _, rfl, ⟨rfl, rfl, valid, front, back, commitment, amount, rfl⟩, rfl⟩, rfl⟩
      exact ⟨valid, front, back, commitment, amount, rfl⟩
    · rintro ⟨valid, front, back, commitment, amount, rfl⟩
      exact ⟨token.category, _, _, rfl, ⟨token.flags, _, _, rfl,
        ⟨rfl, rfl, valid, front, back, commitment, amount, rfl⟩, rfl⟩, rfl⟩
  spelling_encode := by
    intro token valid
    have short := (validate_eq_ok_iff.mp valid).2.2
    refine ⟨valid, _, _, commitmentSpelled_commitmentBytes short, ?_, rfl⟩
    cases token.amount with
    | none => rfl
    | some amount => exact VarInt.spelled_encode amount.toUInt64.toNat_lt
  writable_of_spelling := by
    rintro token taken ⟨valid, _⟩
    exact valid
  shortens := by
    rintro token taken ⟨_, front, back, commitment, amount, rfl⟩
    have amountShortens : Bytes.Shortens (match token.amount with
        | some amount => VarInt.encode (amountWord amount)
        | none => []) back := by
      cases present : token.amount with
      | none =>
          rw [present] at amount
          exact Bytes.Shortens.of_eq amount.symm
      | some value =>
          rw [present] at amount
          exact VarInt.Spelled.shortens amount
    have parts := (shortens_commitmentBytes commitment).append amountShortens
    exact (Bytes.Shortens.refl _).append ((Bytes.Shortens.refl [token.flags]).append parts)

/-- The bytes of a valid token are few. -/
theorem length_encode_le {token : Token} (valid : token.validate = .ok ()) :
    token.encode.length ≤ 91 := by
  have short := (validate_eq_ok_iff.mp valid).2.2
  unfold maxCommitmentLength at short
  have narrow (number : Nat) : VarInt.size number ≤ 9 := by
    unfold VarInt.size
    grind
  have commitment : (commitmentBytes token.commitment).length ≤ 49 := by
    unfold commitmentBytes Bytes.lengthPrefixed
    have front := narrow token.commitment.length
    split
    · exact Nat.zero_le _
    · rw [List.length_append, VarInt.length_encode]
      omega
  rw [encode, List.length_append, token.category.length_eq, List.length_cons, List.length_append]
  cases token.amount with
  | none =>
      rw [List.length_nil]
      omega
  | some amount =>
      have back := narrow (amountWord amount)
      dsimp only
      rw [VarInt.length_encode]
      omega

end Token
end SpendRules

import SpendRules.Proofs.Token
import SpendRules.Transaction.Checks

namespace SpendRules

/-!
# The form of transactions

Outpoints have one spelling each.  Scripts, inputs, outputs and transactions
have as many as the lengths and counts in them can be written in.  The script
field of an output carries its own length, so a token that is written with
wider integers also changes the length in front of it.

An output can be written when its script field means the same output again: a
valid token, or no token and a script that no reader takes for one.
-/

/-- An outpoint is always written in the same way. -/
theorem OutPoint.format_lawful :
    format.Lawful (fun outPoint taken => taken = format.encode outPoint) (fun _ => True) where
  recognizes := by
    refine @Read.Recognizes.congr _ format.read _ _ (Read.recognizes_hash256.bind fun hash =>
      Read.recognizes_word32.bind fun index => Read.recognizes_pure (OutPoint.mk hash index)) ?_
    intro outPoint taken
    constructor
    · rintro ⟨_, _, _, rfl, ⟨_, _, _, rfl, ⟨rfl, rfl⟩, rfl⟩, rfl⟩
      rw [List.append_nil]
      rfl
    · rintro rfl
      exact ⟨outPoint.hash, _, _, rfl, ⟨outPoint.index, _, [], rfl, ⟨rfl, rfl⟩, rfl⟩,
        by rw [List.append_nil]; rfl⟩
  spelling_encode _ := rfl
  writable_of_spelling _ := trivial
  shortens same := Bytes.Shortens.of_eq same.symm

/-- The spellings of a script: its bytes behind a spelling of their number. -/
def Script.spelling : Spelling Script := fun script taken =>
  ∃ front, VarInt.Spelled script.bytes.length front ∧ taken = front ++ script.bytes

theorem Script.format_lawful :
    format.Lawful Script.spelling (fun script => script.bytes.length < 2 ^ 64) where
  recognizes := by
    refine @Read.Recognizes.congr _ format.read _ _ (Read.recognizes_prefixedBytes.map Script.mk) ?_
    intro script taken
    constructor
    · rintro ⟨bytes, spelled, rfl⟩
      exact spelled
    · intro spelled
      exact ⟨script.bytes, spelled, rfl⟩
  spelling_encode := Bytes.lengthPrefixed_spelled
  writable_of_spelling := by
    rintro script taken ⟨front, spelled, _⟩
    exact spelled.lt
  shortens := by
    rintro script taken ⟨front, spelled, rfl⟩
    exact (Bytes.Shortens.refl script.bytes).lengthPrefixed spelled

/-- The spellings of an input: only its script can be written in several ways. -/
def Input.spelling : Spelling Input := fun input taken =>
  ∃ script, input.script.spelling script ∧
    taken = OutPoint.format.encode input.prevout ++ script ++ Bytes.ofNatLE 4 input.sequence.toNat

theorem Input.format_lawful :
    format.Lawful Input.spelling (fun input => input.script.bytes.length < 2 ^ 64) where
  recognizes := by
    refine @Read.Recognizes.congr _ format.read _ _
      (OutPoint.format_lawful.recognizes.bind fun prevout =>
        Script.format_lawful.recognizes.bind fun script =>
          Read.recognizes_word32.bind fun sequence =>
            Read.recognizes_pure (Input.mk prevout script sequence)) ?_
    intro input taken
    constructor
    · rintro ⟨_, _, _, rfl, ⟨_, script, _, spelled, ⟨_, _, _, rfl, ⟨rfl, rfl⟩, rfl⟩, rfl⟩, rfl⟩
      refine ⟨script, spelled, ?_⟩
      rw [List.append_nil, List.append_assoc]
    · rintro ⟨script, spelled, rfl⟩
      refine ⟨input.prevout, _, _, rfl, ⟨input.script, script, _, spelled,
        ⟨input.sequence, _, [], rfl, ⟨rfl, rfl⟩, rfl⟩, rfl⟩, ?_⟩
      rw [List.append_nil, List.append_assoc]
  spelling_encode fits := ⟨_, Script.format_lawful.spelling_encode fits, rfl⟩
  writable_of_spelling := by
    rintro input taken ⟨script, spelled, _⟩
    exact Script.format_lawful.writable_of_spelling spelled
  shortens := by
    rintro input taken ⟨script, spelled, rfl⟩
    exact ((Bytes.Shortens.refl _).append (Script.format_lawful.shortens spelled)).append
      (Bytes.Shortens.refl _)

namespace Output

/-- The output is what its own script field says: its token is valid, or it
has none and its script does not start like one. -/
def IsRepresentable (output : Output) : Prop :=
  match output.token with
  | some token => token.validate = .ok ()
  | none => output.script.bytes.head? ≠ some Token.marker

instance : (output : Output) -> Decidable output.IsRepresentable
  | { token := some token, .. } =>
    match valid : token.validate with
    | .ok _ => isTrue valid
    | .error _ => isFalse fun representable => nomatch valid.symm.trans representable
  | { script, token := none, .. } =>
      inferInstanceAs (Decidable (script.bytes.head? ≠ some Token.marker))

/-- The spellings of a script field: marker, token and script, or a script
that does not start with the marker. -/
def fieldSpelling : Spelling Output := fun output field =>
  match output.token with
  | some token => ∃ taken, token.spelling taken ∧
    field = Token.marker :: (taken ++ output.script.bytes)
  | none => output.script.bytes.head? ≠ some Token.marker ∧ field = output.script.bytes

/-- The spellings of an output: its value, and a script field behind a
spelling of the length of this field. -/
def spelling : Spelling Output := fun output taken =>
  ∃ front field, output.fieldSpelling field ∧ VarInt.Spelled field.length front ∧
    taken = Bytes.ofNatLE 8 output.value.toNat ++ (front ++ field)

/-- A script field is read as an output exactly when it is one of the ways to
write the script field of that output. -/
private theorem ofScriptField_eq_ok_iff {value : UInt64} {field : Bytes} {output : Output} :
    ofScriptField value field = .ok output ↔ output.value = value ∧ output.fieldSpelling field := by
  rcases output with ⟨outputValue, ⟨script⟩, token⟩
  unfold fieldSpelling
  constructor
  · intro read
    cases field with
    | nil =>
        cases read
        refine ⟨rfl, ?_, rfl⟩
        intro impossible
        cases impossible
    | cons first payload =>
        by_cases marked : first = Token.marker
        · subst marked
          rw [ofScriptField, if_pos rfl] at read
          cases result : Token.read (Cursor.ofBytes payload) with
          | error failure cursor =>
              rw [result] at read
              cases read
          | ok found cursor =>
              rw [result] at read
              cases read
              rcases (Token.format_lawful.recognizes 0 payload found cursor).mp result with
                ⟨taken, rest, spelled, rfl, rfl⟩
              exact ⟨rfl, taken, spelled, rfl⟩
        · rw [ofScriptField, if_neg marked] at read
          cases read
          refine ⟨rfl, ?_, rfl⟩
          intro same
          exact marked (Option.some.inj same)
  · rintro ⟨rfl, spelled⟩
    cases token with
    | none =>
        rcases spelled with ⟨unmarked, rfl⟩
        cases field with
        | nil => rfl
        | cons first payload =>
            rw [ofScriptField, if_neg]
            · rfl
            · rintro rfl
              exact unmarked rfl
    | some token =>
        rcases spelled with ⟨taken, spelled, rfl⟩
        have read := (Token.format_lawful.recognizes 0 (taken ++ script) token _).mpr
          ⟨taken, script, spelled, rfl, rfl⟩
        change Token.read (Cursor.ofBytes (taken ++ script)) = _ at read
        rw [ofScriptField, if_pos rfl, read]

private theorem recognizes_scriptField (value : UInt64) (field : Bytes) :
    Read.Recognizes (match ofScriptField value field with
      | .ok output => return output
      | .error failure => throw failure)
      (fun output taken => output.value = value ∧ output.fieldSpelling field ∧ taken = []) := by
  cases read : ofScriptField value field with
  | ok found =>
      refine (Read.recognizes_pure found).congr ?_
      intro output taken
      constructor
      · rintro ⟨rfl, rfl⟩
        rcases ofScriptField_eq_ok_iff.mp read with ⟨same, spelled⟩
        exact ⟨same, spelled, rfl⟩
      · rintro ⟨same, spelled, rfl⟩
        rw [ofScriptField_eq_ok_iff.mpr ⟨same, spelled⟩] at read
        exact ⟨Except.ok.inj read, rfl⟩
  | error failure =>
      refine Read.recognizes_throw failure ?_
      rintro output taken ⟨same, spelled, _⟩
      rw [ofScriptField_eq_ok_iff.mpr ⟨same, spelled⟩] at read
      cases read

/-- Only representable outputs have a script field, and the encoder writes the
shortest one. -/
private theorem shortens_scriptField {output : Output} {field : Bytes}
    (spelled : output.fieldSpelling field) : Bytes.Shortens output.scriptField field := by
  rcases output with ⟨value, script, token⟩
  cases token with
  | none => exact Bytes.Shortens.of_eq spelled.2.symm
  | some token =>
      rcases spelled with ⟨taken, spelled, rfl⟩
      have content := (Token.format_lawful.shortens spelled).append
        (Bytes.Shortens.refl script.bytes)
      exact (Bytes.Shortens.refl [Token.marker]).append content

private theorem isRepresentable_of_fieldSpelling {output : Output} {field : Bytes}
    (spelled : output.fieldSpelling field) : output.IsRepresentable := by
  rcases output with ⟨value, script, token⟩
  cases token with
  | none => exact spelled.1
  | some token =>
      rcases spelled with ⟨taken, spelled, _⟩
      exact spelled.1

private theorem fieldSpelling_scriptField {output : Output}
    (representable : output.IsRepresentable) :
    output.fieldSpelling output.scriptField := by
  rcases output with ⟨value, script, token⟩
  cases token with
  | none => exact ⟨representable, rfl⟩
  | some token => exact ⟨token.encode, Token.format_lawful.spelling_encode representable, rfl⟩

/-- Exactly the representable outputs whose script field is not too long to
announce its length are written and read. -/
theorem format_lawful :
    format.Lawful spelling
      (fun output => output.IsRepresentable ∧ output.scriptField.length < 2 ^ 64) where
  recognizes := by
    refine @Read.Recognizes.congr _ format.read _ _ (Read.recognizes_word64.bind fun value =>
      Read.recognizes_prefixedBytes.bind fun field => recognizes_scriptField value field) ?_
    intro output taken
    constructor
    · rintro ⟨_, _, _, rfl, ⟨field, _, _, ⟨front, spelled, rfl⟩, ⟨rfl, meant, rfl⟩, rfl⟩, rfl⟩
      refine ⟨front, field, meant, spelled, ?_⟩
      rw [List.append_nil]
    · rintro ⟨front, field, meant, spelled, rfl⟩
      exact ⟨output.value, _, _, rfl, ⟨field, _, [], ⟨front, spelled, rfl⟩, ⟨rfl, meant, rfl⟩, rfl⟩,
        by rw [List.append_nil]⟩
  spelling_encode := by
    rintro output ⟨representable, fits⟩
    exact ⟨_, _, fieldSpelling_scriptField representable, VarInt.spelled_encode fits, rfl⟩
  writable_of_spelling := by
    rintro output taken ⟨front, field, meant, spelled, rfl⟩
    refine ⟨isRepresentable_of_fieldSpelling meant, ?_⟩
    exact Nat.lt_of_le_of_lt (shortens_scriptField meant).length_le spelled.lt
  shortens := by
    rintro output taken ⟨front, field, meant, spelled, rfl⟩
    exact (Bytes.Shortens.refl _).append ((shortens_scriptField meant).lengthPrefixed spelled)

/-- The script field of a representable output is little longer than the
script. -/
theorem length_scriptField_le {output : Output} (representable : output.IsRepresentable) :
    output.scriptField.length ≤ 92 + output.script.bytes.length := by
  rcases output with ⟨value, script, token⟩
  cases token with
  | none => exact Nat.le_add_left _ _
  | some token =>
      have short := Token.length_encode_le representable
      change (Token.marker :: (token.encode ++ script.bytes)).length ≤ 92 + script.bytes.length
      rw [List.length_cons, List.length_append]
      omega

end Output

namespace Transaction

/-- The spellings of a transaction: its fields in their order, where every
number of inputs or outputs, every length and every token amount is spelled in
any width that holds it. -/
def spelling : Spelling Transaction := fun tx taken =>
  ∃ inputs outputs, Input.spelling.list tx.inputs inputs ∧ Output.spelling.list tx.outputs outputs ∧
    taken = Bytes.ofNatLE 4 tx.version.toNat ++ inputs ++ outputs ++
      Bytes.ofNatLE 4 tx.lockTime.toNat

/-- The transaction can be written: every count and every length can be
announced, and every output is representable. -/
structure IsWritable (tx : Transaction) : Prop where
  inputCount : tx.inputs.length < 2 ^ 64
  inputs : forall input, input ∈ tx.inputs -> input.script.bytes.length < 2 ^ 64
  outputCount : tx.outputs.length < 2 ^ 64
  outputs : forall output, output ∈ tx.outputs ->
    output.IsRepresentable ∧ output.scriptField.length < 2 ^ 64

theorem format_lawful : format.Lawful spelling IsWritable where
  recognizes := by
    refine @Read.Recognizes.congr _ format.read _ _ (Read.recognizes_word32.bind fun version =>
      Input.format_lawful.list.recognizes.bind fun inputs =>
        Output.format_lawful.list.recognizes.bind fun outputs =>
          Read.recognizes_word32.bind fun lockTime =>
            Read.recognizes_pure (Transaction.mk version inputs outputs lockTime)) ?_
    intro tx taken
    constructor
    · rintro ⟨_, _, _, rfl, ⟨_, inputs, _, inputsSpelled, ⟨_, outputs, _, outputsSpelled,
        ⟨_, _, _, rfl, ⟨rfl, rfl⟩, rfl⟩, rfl⟩, rfl⟩, rfl⟩
      refine ⟨inputs, outputs, inputsSpelled, outputsSpelled, ?_⟩
      rw [List.append_nil, List.append_assoc, List.append_assoc]
    · rintro ⟨inputs, outputs, inputsSpelled, outputsSpelled, rfl⟩
      refine ⟨tx.version, _, _, rfl, ⟨tx.inputs, inputs, _, inputsSpelled, ⟨tx.outputs, outputs, _,
        outputsSpelled, ⟨tx.lockTime, _, [], rfl, ⟨rfl, rfl⟩, rfl⟩, rfl⟩, rfl⟩, ?_⟩
      rw [List.append_nil, List.append_assoc, List.append_assoc]
  spelling_encode := by
    intro tx writable
    exact ⟨_, _, Input.format_lawful.list.spelling_encode ⟨writable.inputCount, writable.inputs⟩,
      Output.format_lawful.list.spelling_encode ⟨writable.outputCount, writable.outputs⟩, rfl⟩
  writable_of_spelling := by
    rintro tx taken ⟨inputs, outputs, inputsSpelled, outputsSpelled, rfl⟩
    rcases Input.format_lawful.list.writable_of_spelling inputsSpelled with ⟨inputCount, eachInput⟩
    rcases Output.format_lawful.list.writable_of_spelling outputsSpelled with
      ⟨outputCount, eachOutput⟩
    exact ⟨inputCount, eachInput, outputCount, eachOutput⟩
  shortens := by
    rintro tx taken ⟨inputs, outputs, inputsSpelled, outputsSpelled, rfl⟩
    have front := (Bytes.Shortens.refl (Bytes.ofNatLE 4 tx.version.toNat)).append
      (Input.format_lawful.list.shortens inputsSpelled)
    exact (front.append (Output.format_lawful.list.shortens outputsSpelled)).append
      (Bytes.Shortens.refl _)

/-! ## Reading back what was written -/

/-- The check of a transaction looks for exactly the outputs that are not
representable. -/
theorem checkScriptField_eq_ok_iff {index : Nat} {output : Output} :
    checkScriptField index output = .ok () ↔ output.IsRepresentable := by
  rcases output with ⟨value, script, token⟩
  cases token with
  | none => by_cases marked : script.bytes.head? = some Token.marker <;>
      simp [checkScriptField, Output.IsRepresentable, marked]
  | some token => cases valid : token.validate <;>
    simp [checkScriptField, Output.IsRepresentable, valid]

/-- The values of outputs, added up. -/
def totalValue : List Output -> Nat
  | [] => 0
  | output :: outputs => output.value.toNat + totalValue outputs

/-- The outputs pass their check when no value and no total of values exceeds
the money that can exist, and all of them are representable.  It is enough to
bound the total of all values, since values are not negative. -/
theorem checkOutputs_eq_ok_iff {total index : Nat} {outputs : List Output}
    (bounded : total ≤ maxMoney) :
    checkOutputs total index outputs = .ok () ↔
      (forall output, output ∈ outputs -> output.value.toNat ≤ maxMoney) ∧
        total + totalValue outputs ≤ maxMoney ∧ forall output, output ∈ outputs ->
        output.IsRepresentable := by
  induction outputs generalizing total index with
  | nil => exact iff_of_true rfl ⟨nofun, bounded, nofun⟩
  | cons first outputs inductionHypothesis =>
      rw [checkOutputs, Sequencing.refuse_eq_ok_iff, Sequencing.refuse_eq_ok_iff,
        Sequencing.check_bind_eq_ok_iff, checkScriptField_eq_ok_iff, Nat.not_lt, Nat.not_lt,
        List.forall_mem_cons, List.forall_mem_cons]
      rw [totalValue, ← Nat.add_assoc]
      constructor
      · rintro ⟨value, within, representable, rest⟩
        rcases (inductionHypothesis within).mp rest with ⟨values, sumWithin, others⟩
        exact ⟨⟨value, values⟩, sumWithin, representable, others⟩
      · rintro ⟨⟨value, values⟩, sumWithin, representable, others⟩
        have within := Nat.le_trans (Nat.le_add_right _ _) sumWithin
        exact ⟨value, within, representable,
          (inductionHypothesis within).mpr ⟨values, sumWithin, others⟩⟩

/-- What a transaction has to pass, in the order of the check. -/
theorem check_eq_ok_iff {tx : Transaction} :
    tx.check = .ok () ↔ tx.inputs ≠ [] ∧ tx.outputs ≠ [] ∧ format.size tx ≤ maxTransactionSize ∧
      minTransactionSize ≤ format.size tx ∧ checkOutputs 0 0 tx.outputs = .ok () ∧
      hasDuplicate ∅ (tx.inputs.map Input.prevout) = false ∧ checkNullOutPoints tx = .ok () := by
  rw [check, Sequencing.refuse_eq_ok_iff, Sequencing.refuse_eq_ok_iff, Sequencing.refuse_eq_ok_iff,
    Sequencing.check_bind_eq_ok_iff, Sequencing.refuse_eq_ok_iff, Nat.not_lt, Nat.not_lt,
    Bool.or_eq_true, not_or, List.isEmpty_iff, List.isEmpty_iff, and_assoc, Bool.not_eq_true]

/-- A transaction that passes its check has representable outputs only. -/
theorem isRepresentable_of_check {tx : Transaction} (checked : tx.check = .ok ()) :
    forall output, output ∈ tx.outputs -> output.IsRepresentable := by
  rcases check_eq_ok_iff.mp checked with ⟨_, _, _, _, outputs, _⟩
  exact ((checkOutputs_eq_ok_iff (Nat.zero_le _)).mp outputs).2.2

/-- The lists of a transaction that is held in memory are shorter than half
the range of a 64-bit word. -/
structure FitsMemory (tx : Transaction) : Prop where
  inputCount : tx.inputs.length < 2 ^ 63
  inputScripts : forall input, input ∈ tx.inputs -> input.script.bytes.length < 2 ^ 63
  outputCount : tx.outputs.length < 2 ^ 63
  outputScripts : forall output, output ∈ tx.outputs -> output.script.bytes.length < 2 ^ 63

/-- In memory, nothing but a misleading script field keeps a transaction from
being written. -/
theorem isWritable_iff {tx : Transaction} (fits : tx.FitsMemory) :
    tx.IsWritable ↔ forall output, output ∈ tx.outputs -> output.IsRepresentable := by
  constructor
  · intro writable output member
    exact (writable.outputs output member).1
  · intro representable
    refine ⟨?_, ?_, ?_, ?_⟩
    · exact Nat.lt_trans fits.inputCount (by decide)
    · intro input member
      exact Nat.lt_trans (fits.inputScripts input member) (by decide)
    · exact Nat.lt_trans fits.outputCount (by decide)
    · intro output member
      refine ⟨representable output member, ?_⟩
      have field := Output.length_scriptField_le (representable output member)
      have script := fits.outputScripts output member
      omega

/-- A transaction is read back from its own bytes exactly when all its outputs
are representable.  Every transaction that passes its check is read back. -/
theorem decode_encode_iff_representable (tx : Transaction) (fits : tx.FitsMemory) :
    (format.decode (format.encode tx) true = .ok tx ↔
        forall output, output ∈ tx.outputs -> output.IsRepresentable) ∧
      (tx.check = .ok () -> format.decode (format.encode tx) true = .ok tx) := by
  have readBack : format.decode (format.encode tx) true = .ok tx ↔
      forall output, output ∈ tx.outputs -> output.IsRepresentable :=
    format_lawful.decode_encode_iff.trans (isWritable_iff fits)
  refine ⟨readBack, ?_⟩
  intro checked
  exact readBack.mpr (isRepresentable_of_check checked)

/-- An output with a token and an output without one, both of which are
representable. -/
private def tokenTransfer : Transaction where
  version := 2
  inputs := [
    { prevout := { hash := Hash256.zero, index := 7 }
      script := { bytes := [0x51] }
      sequence := 0 }]
  outputs := [
    { value := 1000
      script := { bytes := [0x51] }
      token := some
        { category := Hash256.zero, amount := some 300, nft := some ⟨.minting, [0xaa]⟩ } },
    Output.plain 546 { bytes := [0x76, 0xa9] }]
  lockTime := 0

/-- The same transaction with a further output, whose script starts like a
token. -/
private def markedTransfer : Transaction :=
  { tokenTransfer with
    outputs := Output.plain 1 { bytes := [Token.marker] } :: tokenTransfer.outputs }

/-- The one transaction is read back, the other one is not. -/
theorem decode_encode_transfers :
    format.decode (format.encode tokenTransfer) true = .ok tokenTransfer ∧
      format.decode (format.encode markedTransfer) true ≠ .ok markedTransfer := by
  constructor
  · apply (decode_encode_iff_representable tokenTransfer
      ⟨by decide, by decide, by decide, by decide⟩).1.mpr
    intro output member
    rcases List.mem_cons.mp member with rfl | later
    · rfl
    · rw [List.mem_singleton.mp later]
      intro marked
      cases marked
  · intro readBack
    have representable := (decode_encode_iff_representable markedTransfer
      ⟨by decide, by decide, by decide, by decide⟩).1.mp readBack
    exact representable _ List.mem_cons_self rfl

/-- Whatever bytes a transaction was decoded from, writing it again gives bytes
that are accepted, that are no longer, and that are the same bytes unless they
are shorter.  The bytes it was decoded from differ from these in the widths of
variable-width integers only. -/
theorem decode_encode_of_decode {data : Bytes} {tx : Transaction}
    (decoded : format.decode data true = .ok tx) :
    format.decode (format.encode tx) true = .ok tx ∧
      (format.encode tx).length ≤ data.length ∧
      ((format.encode tx).length = data.length ↔ format.encode tx = data) ∧
      tx.spelling data ∧ tx.spelling (format.encode tx) := by
  have spelled := format_lawful.decode_eq_ok_iff.mp decoded
  have canonical := format_lawful.spelling_encode_of_spelling spelled
  have shortens := format_lawful.shortens spelled
  exact ⟨format_lawful.decode_eq_ok_iff.mpr canonical, shortens.length_le,
    ⟨shortens.eq_of_length_eq, congrArg List.length⟩, spelled, canonical⟩

/-- A transaction without inputs, whose one output carries a token.  The number
of inputs, the length of the script field and the amount of the token inside
this field each take two bytes more than they need. -/
private def widened : Bytes :=
  Bytes.ofNatLE 4 2 ++ [0xfd, 0, 0] ++ [1] ++ Bytes.ofNatLE 8 1000 ++ [0xfd, 0x25, 0] ++
    (Token.marker :: Hash256.zero.bytes) ++ [0x10, 0xfd, 1, 0] ++ Bytes.ofNatLE 4 0

/-- The token transfer that `widened` stands for. -/
private def narrowed : Transaction where
  version := 2
  inputs := []
  outputs := [{ value := 1000, script := { bytes := [] }
                token := some { category := Hash256.zero, amount := some 1, nft := none } }]
  lockTime := 0

/-- Writing it again saves the six bytes, and the shorter bytes are accepted. -/
theorem decode_encode_narrowed :
    format.decode widened true = .ok narrowed ∧
      format.decode (format.encode narrowed) true = .ok narrowed ∧
      (format.encode narrowed).length + 6 = widened.length := by
  have decoded : format.decode widened true = .ok narrowed := rfl
  exact ⟨decoded, (decode_encode_of_decode decoded).1, by decide⟩

end Transaction
end SpendRules

import SpendRules.Transaction

namespace SpendRules

/-!
# Sizes

The size of a value is computed without writing it.  It is the number of bytes
that are written, for every value of every format, also for those that cannot be
read back.
-/

/-- The computed size is the number of bytes that are written. -/
def Format.IsSized {α : Type} (format : Format α) : Prop :=
  forall value, (format.encode value).length = format.size value

theorem Format.isSized_list {α : Type} {format : Format α} (sized : format.IsSized) :
    format.list.IsSized := by
  intro values
  have content : (values.flatMap format.encode).length =
      values.foldr (fun value total => format.size value + total) 0 := by
    induction values with
    | nil => rfl
    | cons value values inductionHypothesis =>
        rw [List.flatMap_cons, List.length_append, sized value, inductionHypothesis,
          List.foldr_cons]
  change (VarInt.encode values.length ++ values.flatMap format.encode).length = _
  rw [List.length_append, VarInt.length_encode, content]
  rfl

theorem Bytes.length_lengthPrefixed (bytes : Bytes) :
    bytes.lengthPrefixed.length = VarInt.size bytes.length + bytes.length := by
  rw [lengthPrefixed, List.length_append, VarInt.length_encode]

theorem OutPoint.isSized_format : format.IsSized := by
  intro outPoint
  change (outPoint.hash.bytes ++ Bytes.ofNatLE 4 outPoint.index.toNat).length = 36
  rw [List.length_append, outPoint.hash.length_eq, Bytes.length_ofNatLE]

theorem Script.isSized_format : format.IsSized :=
  fun script => script.bytes.length_lengthPrefixed

theorem Input.isSized_format : format.IsSized := by
  intro input
  change (OutPoint.format.encode input.prevout ++ Script.format.encode input.script ++
    Bytes.ofNatLE 4 input.sequence.toNat).length = _
  rw [List.length_append, List.length_append, OutPoint.isSized_format, Script.isSized_format,
    Bytes.length_ofNatLE]
  rfl

/-- The size of a token does not depend on whether it is valid. -/
theorem Token.isSized_format : format.IsSized := by
  intro token
  have commitment : (commitmentBytes token.commitment).length =
      if token.commitment.length = 0 then 0
        else VarInt.size token.commitment.length + token.commitment.length := by
    unfold commitmentBytes
    cases token.commitment with
    | nil => rfl
    | cons first rest => exact Bytes.length_lengthPrefixed (first :: rest)
  change token.encode.length = token.size
  rw [encode, size, List.length_append, token.category.length_eq, List.length_cons,
    List.length_append, commitment]
  cases token.amount with
  | none =>
      dsimp only
      rw [List.length_nil]
      omega
  | some amount =>
      dsimp only
      rw [VarInt.length_encode]
      omega

namespace Output

theorem length_scriptField (output : Output) :
    output.scriptField.length = output.scriptFieldSize := by
  unfold scriptField scriptFieldSize
  cases output.token with
  | none => rfl
  | some token =>
      have encoded : token.encode.length = token.size := Token.isSized_format token
      dsimp only
      rw [List.length_cons, List.length_append, encoded]
      omega

theorem isSized_format : format.IsSized := by
  intro output
  change (Bytes.ofNatLE 8 output.value.toNat ++ output.scriptField.lengthPrefixed).length =
    8 + VarInt.size output.scriptFieldSize + output.scriptFieldSize
  rw [List.length_append, Bytes.length_ofNatLE, Bytes.length_lengthPrefixed, length_scriptField]
  omega

theorem isSized_recordFormat : recordFormat.IsSized := by
  intro output
  change (unspentMark ++ format.encode output).length = 4 + format.size output
  rw [List.length_append, isSized_format]
  rfl

/-- In front of the script field stands the size that is computed for it. -/
theorem encode_eq (output : Output) :
    format.encode output = Bytes.ofNatLE 8 output.value.toNat ++
      VarInt.encode output.scriptFieldSize ++
      output.scriptField := by
  rw [← length_scriptField, List.append_assoc]
  rfl

end Output

theorem Transaction.isSized_format : format.IsSized := by
  intro tx
  change (Bytes.ofNatLE 4 tx.version.toNat ++ Input.format.list.encode tx.inputs ++
    Output.format.list.encode tx.outputs ++ Bytes.ofNatLE 4 tx.lockTime.toNat).length =
      4 + Input.format.list.size tx.inputs + Output.format.list.size tx.outputs + 4
  rw [List.length_append, List.length_append, List.length_append, Bytes.length_ofNatLE,
    Bytes.length_ofNatLE, Format.isSized_list Input.isSized_format,
    Format.isSized_list Output.isSized_format]

/-- All sizes are exact, whatever the values, those of tokens included that cannot be
decoded.  In a store, an output is written as on the wire, behind four bytes. -/
theorem Format.sizes_exact :
    OutPoint.format.IsSized ∧ Input.format.IsSized ∧ Script.format.IsSized ∧ Token.format.IsSized ∧
      Transaction.format.IsSized ∧ Output.format.IsSized ∧ Output.recordFormat.IsSized ∧
      forall output, Output.recordFormat.encode output = [0xff, 0xff, 0xff, 0xff] ++
          Output.format.encode output ∧
        Output.format.encode output = Bytes.ofNatLE 8 output.value.toNat ++
          VarInt.encode output.scriptFieldSize ++
          output.scriptField :=
  ⟨OutPoint.isSized_format, Input.isSized_format, Script.isSized_format, Token.isSized_format,
    Transaction.isSized_format, Output.isSized_format, Output.isSized_recordFormat,
    fun output => ⟨rfl, output.encode_eq⟩⟩

end SpendRules

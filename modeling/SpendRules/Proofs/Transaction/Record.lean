import SpendRules.Proofs.Json.Lossless
import SpendRules.Transaction.Record

namespace SpendRules

/-!
# Transactions as text

The JSON form of a transaction is lossless, part by part.  Nothing is asked of the
transaction: outputs that have no wire form of their own, tokens that no valid output
carries and the value that stands for a missing output all have a form like any other.
So two transactions are told apart by their texts.
-/

open Json

theorem lossless_word32 : Lossless Value.ofWord32 Value.word32? :=
  .ofNat UInt32.toNat_lt fun _ => UInt32.ofNat_toNat

theorem Hash256.lossless : Lossless Hash256.toJson Hash256.ofJson? where
  isWellFormed hash := lossless_bytes.isWellFormed hash.bytes
  reads hash := by
    rw [ofJson?, toJson, lossless_bytes.reads]
    exact dif_pos hash.length_eq

theorem Script.lossless : Lossless Script.toJson Script.ofJson? where
  isWellFormed script := lossless_bytes.isWellFormed script.bytes
  reads script := by
    rw [ofJson?, toJson, lossless_bytes.reads]
    rfl

theorem OutPoint.lossless : Lossless OutPoint.toJson OutPoint.ofJson? where
  isWellFormed outPoint := by
    refine Value.isWellFormed_record ?_
    simp [Hash256.lossless.isWellFormed, lossless_word32.isWellFormed]
  reads outPoint := by
    rw [ofJson?, toJson, Value.fields_record ["hash", "index"] (by decide) rfl]
    simp [Hash256.lossless.reads, lossless_word32.reads]

theorem Input.lossless : Lossless Input.toJson Input.ofJson? where
  isWellFormed input := by
    refine Value.isWellFormed_record ?_
    simp [OutPoint.lossless.isWellFormed, Script.lossless.isWellFormed,
      lossless_word32.isWellFormed]
  reads input := by
    rw [ofJson?, toJson, Value.fields_record ["prevout", "script", "sequence"] (by decide) rfl]
    simp [OutPoint.lossless.reads, Script.lossless.reads, lossless_word32.reads]

theorem Capability.lossless : Lossless Capability.toJson Capability.ofJson? where
  isWellFormed capability := Value.isWellFormed_string (some capability.name)
  reads capability := by
    cases capability <;> decide

theorem NonFungible.lossless : Lossless NonFungible.toJson NonFungible.ofJson? where
  isWellFormed nft := by
    refine Value.isWellFormed_record ?_
    simp [Capability.lossless.isWellFormed, lossless_bytes.isWellFormed]
  reads nft := by
    rw [ofJson?, toJson, Value.fields_record ["capability", "commitment"] (by decide) rfl]
    simp [Capability.lossless.reads, lossless_bytes.reads]

namespace Token

/-- Amounts are signed: every word has a form, also one below zero. -/
theorem lossless_amount : Lossless (fun amount : Int64 => .ofInt amount.toInt) Token.amount? where
  isWellFormed amount := Value.isWellFormed_ofInt amount.toInt
  reads amount := by
    have least : -0x8000000000000000 ≤ amount.toInt := amount.le_toInt
    have greatest : amount.toInt ≤ 0x7fffffffffffffff := Int.le_of_lt_add_one amount.toInt_lt
    rw [amount?, Value.intWithin_ofInt least greatest, Option.map_some, Int64.ofInt_toInt]

theorem lossless : Lossless Token.toJson Token.ofJson? where
  isWellFormed token := by
    refine Value.isWellFormed_record ?_
    simp [Hash256.lossless.isWellFormed, (lossless_amount.option nofun).isWellFormed,
      (NonFungible.lossless.option nofun).isWellFormed]
  reads token := by
    rw [ofJson?, toJson, Value.fields_record ["category", "amount", "nft"] (by decide) rfl]
    simp [Hash256.lossless.reads, (lossless_amount.option nofun).reads,
      (NonFungible.lossless.option nofun).reads]

end Token

theorem Output.lossless : Lossless Output.toJson Output.ofJson? where
  isWellFormed output := by
    refine Value.isWellFormed_record ?_
    simp [Value.isWellFormed_ofInt, Script.lossless.isWellFormed,
      (Token.lossless.option nofun).isWellFormed]
  reads output := by
    rw [ofJson?, toJson, Value.fields_record ["value", "script", "token"] (by decide) rfl]
    simp [Value.natBelow_ofInt output.value.toNat_lt, Script.lossless.reads,
      (Token.lossless.option nofun).reads]

namespace Transaction

theorem lossless : Lossless Transaction.toJson Transaction.ofJson? where
  isWellFormed tx := by
    refine Value.isWellFormed_record ?_
    simp [lossless_word32.isWellFormed, Input.lossless.list.isWellFormed,
      Output.lossless.list.isWellFormed]
  reads tx := by
    rw [ofJson?, toJson,
      Value.fields_record ["version", "inputs", "outputs", "lock_time"] (by decide) rfl]
    simp [lossless_word32.reads, Input.lossless.list.reads, Output.lossless.list.reads]

/-- Every transaction is read back from its text, and no other transaction has this
text. -/
theorem render_lossless (tx : Transaction) :
    parse? tx.render = some tx ∧ forall other : Transaction, other.render = tx.render ↔
      other = tx := by
  have read (tx : Transaction) : parse? tx.render = some tx := lossless.parse_render tx
  refine ⟨read tx, fun other => ⟨fun same => ?_, fun same => congrArg render same⟩⟩
  apply Option.some.inj
  rw [← read other, same, read tx]

/-- The output has no wire form: its script begins with the marker of tokens, and its
value stands for a missing output. -/
example :
    ({ version := 2, inputs := [], lockTime := 0,
       outputs := [Output.plain Output.missingValue { bytes := [Token.marker] }] } :
      Transaction).render =
      "\x7b\"version\":2,\"inputs\":[],\"outputs\":[" ++
        "\x7b\"value\":18446744073709551615,\"script\":[239],\"token\":null\x7d]," ++
        "\"lock_time\":0\x7d" := by
  decide +kernel

end Transaction
end SpendRules

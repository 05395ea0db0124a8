import SpendRules.Proofs.Codec.Extension
import SpendRules.Proofs.Transaction.Conservation

namespace SpendRules

/-!
# Missing outputs

One value of an output is reserved: it says that the output is missing.  A decoder
does not look at values.  It returns an output with the reserved value wherever
the data spells one, from the wire, from a store and within a transaction.

The checks of transactions are what keeps such an output away.  The reserved value
is more than the money that can exist, so no transaction that creates it is
admitted, and nothing is paid with it.
-/

namespace Output

/-- The bytes of the value that stands for a missing output. -/
def missingMark : Bytes := List.replicate 8 0xff

variable {output : Output} {taken data : Bytes} {strict : Bool}

/-- The value stands in front of every spelling of an output. -/
theorem isPresent_iff_of_spelling (spelled : output.spelling taken) (rest : Bytes) :
    output.isPresent = true ↔ (taken ++ rest).take 8 ≠ missingMark := by
  rcases spelled with ⟨front, field, _, _, rfl⟩
  rw [List.append_assoc, List.take_left' (Bytes.length_ofNatLE 8 _), isPresent, bne_iff_ne]
  have mark : missingMark = Bytes.ofNatLE 8 missingValue.toNat := by decide
  rw [mark, Ne, ← UInt64.toNat_inj]
  exact not_congr ⟨congrArg (Bytes.ofNatLE 8), Bytes.ofNatLE_inj output.value.toNat_lt (by decide)⟩

theorem isPresent_iff_of_decode (decoded : format.decode data strict = .ok output) :
    output.isPresent = true ↔ data.take 8 ≠ missingMark := by
  rcases Format.exists_spelling_of_decode format_lawful.recognizes decoded with
    ⟨taken, rest, spelled, rfl⟩
  exact isPresent_iff_of_spelling spelled rest

/-- In a store, four bytes stand in front, which say nothing about the output. -/
theorem isPresent_iff_of_decode_record (decoded : recordFormat.decode data strict = .ok output) :
    output.isPresent = true ↔ (data.drop 4).take 8 ≠ missingMark := by
  have recognizes := Read.recognizes_word32.bind fun _ => format_lawful.recognizes
  rcases Format.exists_spelling_of_decode recognizes decoded with
    ⟨_, rest, ⟨_, _, taken, rfl, spelled, rfl⟩, rfl⟩
  rw [List.append_assoc, List.drop_left' (Bytes.length_ofNatLE 4 _)]
  exact isPresent_iff_of_spelling spelled rest

end Output

namespace Transaction

variable {tx : Transaction}

/-- A transaction that passes its check creates no missing outputs. -/
theorem isPresent_of_check (checked : tx.check = .ok ()) (output : Output)
    (member : output ∈ tx.outputs) :
    output.isPresent = true := by
  rcases check_eq_ok_iff.mp checked with ⟨_, _, _, _, outputs, _⟩
  exact isPresent_of_le_maxMoney
    (((checkOutputs_eq_ok_iff (Nat.zero_le _)).mp outputs).1 output member)

/-- Each output of a decoded transaction is spelled somewhere in the data. -/
theorem exists_spelling_of_mem {data : Bytes} {strict : Bool}
    (decoded : format.decode data strict = .ok tx) {output : Output}
    (member : output ∈ tx.outputs) :
    ∃ front taken back, output.spelling taken ∧ data = front ++ taken ++ back := by
  rcases Format.exists_spelling_of_decode format_lawful.recognizes decoded with
    ⟨_, rest, ⟨inputs, _, _, ⟨count, outputs, _, spelled, rfl⟩, rfl⟩, rfl⟩
  rcases Spelling.exists_of_mem_sequence spelled member with ⟨before, taken, behind, found, rfl⟩
  refine ⟨Bytes.ofNatLE 4 tx.version.toNat ++ inputs ++ count ++ before, taken,
    behind ++ Bytes.ofNatLE 4 tx.lockTime.toNat ++ rest, found, ?_⟩
  simp only [List.append_assoc]

/-- Whether a decoded output is missing is decided by eight bytes of the data, which
hold its value.  No decoder refuses the reserved value.  The checks do: a
transaction with a missing output among those that it creates is not admitted, and
with one among those that it spends it has no fee. -/
theorem missing_outputs_decoded_not_admitted (data : Bytes) (strict : Bool) :
    (forall output, Output.format.decode data strict = .ok output ->
      (output.isPresent = true ↔ data.take 8 ≠ Output.missingMark)) ∧
    (forall output, Output.recordFormat.decode data strict = .ok output ->
      (output.isPresent = true ↔ (data.drop 4).take 8 ≠ Output.missingMark)) ∧
    forall tx, format.decode data strict = .ok tx ->
      (forall output, output ∈ tx.outputs -> ∃ front taken back, output.spelling taken ∧
          data = front ++ taken ++ back ∧
        (output.isPresent = true ↔ taken.take 8 ≠ Output.missingMark)) ∧
      (tx.check = .ok () -> forall output, output ∈ tx.outputs -> output.isPresent = true) ∧
      (forall spent fee, tx.isCoinbase = false -> tx.fee spent = .ok fee ->
        forall output, output ∈ spent ++ tx.outputs -> output.isPresent = true) := by
  refine ⟨fun _ => Output.isPresent_iff_of_decode,
    fun _ => Output.isPresent_iff_of_decode_record, ?_⟩
  intro tx decoded
  refine ⟨?_, isPresent_of_check, ?_⟩
  · intro output member
    rcases exists_spelling_of_mem decoded member with ⟨front, taken, back, spelled, same⟩
    have present := Output.isPresent_iff_of_spelling spelled []
    rw [List.append_nil] at present
    exact ⟨front, taken, back, spelled, same, present⟩
  · intro spent fee spends left output member
    have affords := affords_of_fee spends left
    rcases List.mem_append.mp member with paid | created
    · exact isPresent_of_le_maxMoney (affords.spentMoney.values output paid)
    · exact isPresent_of_le_maxMoney (affords.createdMoney.values output created)

/-- A transaction that creates an output with the reserved value. -/
private def missingPayment : Transaction where
  version := 2
  inputs :=
    [{ prevout := { hash := Hash256.zero, index := 0 }, script := { bytes := [] }, sequence := 0 }]
  outputs := [{ Output.missing with script := { bytes := [0x51] } }]
  lockTime := 0

/-- Missing outputs are decoded from the wire, from a store, and within a
transaction. -/
theorem decode_missing :
    Output.format.decode (Output.missingMark ++ [0]) true = .ok Output.missing ∧
      Output.recordFormat.decode ([0, 0, 0, 0] ++ Output.missingMark ++ [0]) true =
        .ok Output.missing ∧
      format.decode (format.encode missingPayment) true = .ok missingPayment ∧
      Output.missing.isPresent = false ∧
      ∃ output, output ∈ missingPayment.outputs ∧ output.isPresent = false :=
  ⟨rfl, rfl, rfl, rfl, _, List.mem_singleton_self _, rfl⟩

/-- The decoded transaction is not admitted, and has no fee. -/
theorem missingPayment_not_admitted :
    format.decode (format.encode missingPayment) true = .ok missingPayment ∧
      missingPayment.isCoinbase = false ∧
      missingPayment.check ≠ .ok () ∧ forall spent fee, missingPayment.fee spent ≠ .ok fee := by
  have decoded : format.decode (format.encode missingPayment) true = .ok missingPayment := rfl
  rcases (missing_outputs_decoded_not_admitted _ true).2.2 _ decoded with ⟨_, created, left⟩
  refine ⟨decoded, rfl, ?_, ?_⟩
  · intro checked
    exact absurd (created checked _ (List.mem_singleton_self _)) (by decide)
  · intro spent fee paid
    exact absurd (left spent fee rfl paid _ (List.mem_append_right _ (List.mem_singleton_self _)))
      (by decide)

end Transaction
end SpendRules

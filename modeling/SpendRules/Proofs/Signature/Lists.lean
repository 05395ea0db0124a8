import SpendRules.Proofs.Size
import SpendRules.Proofs.Transaction
import SpendRules.Signature.Digest

namespace SpendRules

/-!
# What the hashed lists commit to

The newer message holds three lists by their hash only: the references to spent
outputs, the sequence numbers, and outputs.  The messages that are hashed for
them are the items one after another, without their number.  They can still be
cut in one way only.  References and sequence numbers have a fixed width, and an
output says where it ends, with a token or without one.

This needs outputs that can be written.  An output whose script starts with the
marker is hashed like the output with the token that its script spells.
-/

theorem OutPoint.selfDelimiting : SelfDelimiting format.encode (fun _ => True) :=
  format_lawful.selfDelimiting fun outPoint => by
    rw [isSized_format outPoint]
    exact Nat.succ_pos 35

theorem Output.selfDelimiting :
    SelfDelimiting format.encode
      (fun output => output.IsRepresentable ∧ output.scriptField.length < 2 ^ 64) :=
  format_lawful.selfDelimiting fun output => by
    rw [encode_eq, List.length_append, List.length_append, Bytes.length_ofNatLE]
    omega

/-- Words of four bytes follow one another without a gap. -/
theorem Bytes.selfDelimiting_word32 :
    SelfDelimiting (fun word : UInt32 => ofNatLE 4 word.toNat) (fun _ => True) where
  ne_nil _ impossible := nomatch impossible
  cancel {value other _ _} _ _ same := by
    have sameLength : (ofNatLE 4 value.toNat).length = (ofNatLE 4 other.toNat).length := by
      rw [length_ofNatLE, length_ofNatLE]
    rcases List.append_inj same sameLength with ⟨words, rests⟩
    exact ⟨UInt32.toNat_inj.mp (ofNatLE_inj value.toNat_lt other.toNat_lt words), rests⟩

namespace SigHash

/-- The outputs can be told apart when they are hashed: each of them is
representable, and its script fits into memory. -/
def AreCommitted (outputs : List Output) : Prop :=
  forall output, output ∈ outputs -> output.IsRepresentable ∧ output.script.bytes.length < 2 ^ 63

instance (outputs : List Output) : Decidable (AreCommitted outputs) :=
  inferInstanceAs (Decidable (forall output, output ∈ outputs -> _ ∧ _))

theorem outputsMessage_eq_iff {outputs others : List Output} (committed : AreCommitted outputs)
    (otherCommitted : AreCommitted others) :
    outputsMessage outputs = outputsMessage others ↔ outputs = others := by
  have writable {listed : List Output} (committed : AreCommitted listed) (output : Output)
      (member : output ∈ listed) :
      output.IsRepresentable ∧ output.scriptField.length < 2 ^ 64 := by
    rcases committed output member with ⟨representable, short⟩
    have field := Output.length_scriptField_le representable
    exact ⟨representable, by omega⟩
  exact Output.selfDelimiting.flatMap_eq_iff (writable committed) (writable otherCommitted)

/-- Each of the hashed messages is that of one list only.  For outputs, which are
hashed as those that are created and as those that are spent, this holds of lists
of representable outputs. -/
theorem messages_eq_iff :
    (forall inputs others : List Input,
      prevoutsMessage inputs = prevoutsMessage others ↔
        inputs.map Input.prevout = others.map Input.prevout) ∧
    (forall inputs others : List Input,
      sequencesMessage inputs = sequencesMessage others ↔
        inputs.map Input.sequence = others.map Input.sequence) ∧
    (forall outputs others : List Output, AreCommitted outputs -> AreCommitted others ->
      (outputsMessage outputs = outputsMessage others ↔ outputs = others)) := by
  refine ⟨?_, ?_, ?_⟩
  · intro inputs others
    have message (listed : List Input) : prevoutsMessage listed =
        (listed.map Input.prevout).flatMap OutPoint.format.encode := by
      rw [List.flatMap_map]
      rfl
    rw [message, message]
    exact OutPoint.selfDelimiting.flatMap_eq_iff (fun _ _ => trivial) (fun _ _ => trivial)
  · intro inputs others
    have message (listed : List Input) : sequencesMessage listed =
        (listed.map Input.sequence).flatMap fun word => Bytes.ofNatLE 4 word.toNat := by
      rw [List.flatMap_map]
      rfl
    rw [message, message]
    exact Bytes.selfDelimiting_word32.flatMap_eq_iff (fun _ _ => trivial) (fun _ _ => trivial)
  · intro outputs others committed otherCommitted
    exact outputsMessage_eq_iff committed otherCommitted

/-- An output with a token and an empty script, as long as the two outputs of
`recut` together. -/
private def whole : List Output :=
  [{ value := 1000
     script := { bytes := [] }
     token := some { category := Hash256.zero, amount := some 1, nft := none } }]

private def recut : List Output :=
  [Output.plain 1000 { bytes := List.replicate 26 0x51 }, Output.plain 0 { bytes := [] }]

/-- The one output is not hashed like the two, although there are as many bytes. -/
theorem messages_eq_iff_recut :
    AreCommitted whole ∧ AreCommitted recut ∧
      (outputsMessage whole).length = (outputsMessage recut).length ∧
      outputsMessage whole ≠ outputsMessage recut := by
  have committed : AreCommitted whole := by decide
  have otherCommitted : AreCommitted recut := by decide
  refine ⟨committed, otherCommitted, by decide, ?_⟩
  rw [Ne, messages_eq_iff.2.2 whole recut committed otherCommitted]
  decide

/-- A script that spells a token is hashed like this token and no script. -/
example :
    outputsMessage [Output.plain 1000 { bytes := 0xef :: (List.replicate 32 0 ++ [0x10, 1]) }] =
      outputsMessage
        [{ value := 1000, script := { bytes := [] },
           token := some { category := Hash256.zero, amount := some 1, nft := none } }] := by
  decide

end SigHash
end SpendRules

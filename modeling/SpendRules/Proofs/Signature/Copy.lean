import SpendRules.Signature.Digest

namespace SpendRules
namespace SigHash

/-!
# The older message as a transaction

The older composition was first described by a transaction: take the one to be
signed, blank out what the signature leaves free, and hash its bytes with the
hash type behind them.  The message itself is written without ever building
this transaction.  Field by field, both give the same bytes.

Nothing is assumed of the hash function, and nothing of the transaction: the
counts in front of both lists, the bytes that stand for blank scripts and
outputs, and the tokens of the kept outputs agree for every index and every hash
type.
-/

section

variable (tx : Transaction) (signed : Nat) (code : Script) (hashType : SigHashType)

/-- There is nothing to copy: the signed input is missing, or the output that a
single selection asks for is. -/
def HasNoCopy : Prop :=
  tx.inputs.length ≤ signed ∨ (hashType.selection = .single ∧ tx.outputs.length ≤ signed)

instance : Decidable (HasNoCopy tx signed hashType) :=
  inferInstanceAs (Decidable (_ ∨ (_ ∧ _)))

/-- An input of the copy.  The signed one carries the running script, without
its code separators.  The others carry no script, and their sequence numbers
are blanked out where the hash type leaves them free. -/
def copyInput (index : Nat) (input : Input) : Input :=
  if index = signed then { input with script := code.withoutCodeSeparators }
  else { input with
    script := { bytes := [] }
    sequence := if hashType.freesSequences then 0 else input.sequence }

/-- The inputs of the copy: all of them, or the signed one alone. -/
def copyInputs : List Input :=
  let copies := tx.inputs.mapIdx (copyInput signed code hashType)
  if hashType.hasAnyoneCanPay then copies[signed]?.toList else copies

/-- The outputs of the copy: none, the one with the index of the signed input
behind outputs that stand for nothing, or all of them. -/
def copyOutputs : List Output :=
  match hashType.selection with
  | .none => []
  | .single => List.replicate signed Output.missing ++ tx.outputs[signed]?.toList
  | .all | .unsupported _ => tx.outputs

/-- The transaction with everything blanked out that the signature leaves free. -/
def copy : Transaction :=
  { tx with
    inputs := copyInputs tx signed code hashType
    outputs := copyOutputs tx signed hashType }

end

variable {tx : Transaction} {signed : Nat} {code : Script} {hashType : SigHashType}

/-- The length that stands for a script is all that is written of a script without bytes. -/
theorem encode_blankScript : Script.format.encode { bytes := [] } = VarInt.encode 0 :=
  List.append_nil _

/-- The bytes that stand for an output are those of the output that stands for a missing
one. -/
theorem blankOutput_eq : blankOutput = Output.format.encode Output.missing := by
  decide

/-- An input is written as its copy. -/
private theorem legacyInput_eq (index : Nat) (input : Input) :
    legacyInput hashType signed code.withoutCodeSeparators input index =
      Input.format.encode (copyInput signed code hashType index input) := by
  unfold legacyInput copyInput
  by_cases own : index = signed
  · rw [if_pos own, if_pos own, if_neg (fun other => other.1 own)]
    rfl
  · rw [if_neg own, if_neg own, ← encode_blankScript]
    cases hashType.freesSequences with
    | true => rw [if_pos ⟨own, rfl⟩]; rfl
    | false => rw [if_neg (fun other => Bool.false_ne_true other.2)]; rfl

/-- The inputs are written as the inputs of the copy, behind their number. -/
private theorem legacyInputs_eq {input : Input} (present : tx.inputs[signed]? = some input) :
    legacyInputs tx signed input code.withoutCodeSeparators hashType =
      Input.format.list.encode (copyInputs tx signed code hashType) := by
  unfold legacyInputs copyInputs
  cases hashType.hasAnyoneCanPay with
  | true =>
      have kept : (tx.inputs.mapIdx (copyInput signed code hashType))[signed]?.toList =
          [copyInput signed code hashType signed input] := by
        rw [List.getElem?_mapIdx, present]
        rfl
      dsimp only
      rw [if_pos rfl, if_pos rfl, kept, List.flatMap_singleton, legacyInput_eq]
      simp [Format.list]
  | false =>
      dsimp only
      rw [if_neg Bool.false_ne_true, if_neg Bool.false_ne_true, List.mapIdx_eq_zipIdx_map]
      simp only [Format.list, List.length_zipIdx, List.length_map, List.flatMap_map, legacyInput_eq]

/-- The outputs are written as the outputs of the copy, behind their number. -/
private theorem legacyOutputs_eq :
    legacyOutputs? tx signed hashType =
      if hashType.selection = .single ∧ tx.outputs.length ≤ signed then none
      else some (Output.format.list.encode (copyOutputs tx signed hashType)) := by
  unfold legacyOutputs? copyOutputs
  cases selected : hashType.selection with
  | none => rfl
  | all => rfl
  | unsupported bits => rfl
  | single =>
      dsimp only
      by_cases absent : tx.outputs.length ≤ signed
      · rw [if_pos ⟨rfl, absent⟩, List.getElem?_eq_none absent]
        rfl
      · rw [if_neg (fun missing => absent missing.2),
          List.getElem?_eq_getElem (Nat.lt_of_not_le absent)]
        simp [Format.list, blankOutput_eq, List.flatMap]

/-- The message is the bytes of the copy with the hash type behind them. -/
theorem legacyMessage_eq :
    legacyMessage? tx signed code hashType =
      if HasNoCopy tx signed hashType then none
      else some (Transaction.format.encode (copy tx signed code hashType) ++
        Bytes.ofNatLE 4 hashType.raw.toNat) := by
  unfold legacyMessage?
  by_cases absent : tx.inputs.length ≤ signed
  · have nothing : HasNoCopy tx signed hashType := Or.inl absent
    rw [List.getElem?_eq_none absent, if_pos nothing]
  · have present := List.getElem?_eq_getElem (Nat.lt_of_not_le absent)
    rw [present]
    dsimp only
    rw [legacyOutputs_eq, legacyInputs_eq present]
    by_cases missing : hashType.selection = .single ∧ tx.outputs.length ≤ signed
    · have nothing : HasNoCopy tx signed hashType := Or.inr missing
      rw [if_pos missing, if_pos nothing]
      rfl
    · have copied : ¬ HasNoCopy tx signed hashType := not_or.mpr ⟨absent, missing⟩
      rw [if_neg missing, if_neg copied]
      rfl

/-- The older digest is the hash of the copy and the hash type, whatever the
hash function; where there is nothing to copy, it is a one and zeros. -/
theorem legacyDigest_eq_hash_copy (hash : Bytes -> Hash256) (tx : Transaction) (signed : Nat)
    (code : Script) (hashType : SigHashType) :
    ((legacyMessage? tx signed code hashType).elim one hash).bytes =
        (if HasNoCopy tx signed hashType then 1 :: List.replicate 31 0
        else (hash (Transaction.format.encode (copy tx signed code hashType) ++
          Bytes.ofNatLE 4 hashType.raw.toNat)).bytes) ∧
      legacyDigest tx signed code hashType =
        (legacyMessage? tx signed code hashType).elim one Hash.doubleSha256 := by
  constructor
  · rw [legacyMessage_eq]
    split
    · rfl
    · rfl
  · unfold legacyDigest
    cases legacyMessage? tx signed code hashType with
    | none => rfl
    | some message => rfl

end SigHash
end SpendRules

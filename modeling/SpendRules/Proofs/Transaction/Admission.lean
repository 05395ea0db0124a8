import SpendRules.Proofs.Size
import SpendRules.Proofs.Transaction

namespace SpendRules

/-!
# Transactions that pass their check

The check of a transaction stops at the first broken rule.  Here the rules stand
side by side, each about the transaction as a whole: its bytes, the exact total
of its values, the references of all its inputs.  A transaction passes its check
exactly when it obeys them all.

The total of values is kept in a word of 64 bits.  A value is compared with the
greatest amount of money before it is added, and the total afterwards, so no
addition leaves the range of the word.
-/

/-- The reference to no output has the greatest index and a hash of zeros. -/
theorem OutPoint.isNull_iff {outPoint : OutPoint} :
    outPoint.isNull = true ↔ outPoint = OutPoint.null := by
  rcases outPoint with ⟨hash, index⟩
  rw [isNull, null, Bool.and_eq_true, beq_iff_eq, beq_iff_eq, OutPoint.mk.injEq]
  exact and_comm

namespace Transaction

/-- The documented rules for transactions. -/
structure IsAdmissible (tx : Transaction) : Prop where
  inputs : tx.inputs ≠ []
  outputs : tx.outputs ≠ []
  notSmall : 65 ≤ (format.encode tx).length
  notLarge : (format.encode tx).length ≤ 1000000
  values : forall output, output ∈ tx.outputs -> output.value.toNat ≤ maxMoney
  total : totalValue tx.outputs ≤ maxMoney
  /-- Inputs at different positions spend different outputs. -/
  distinct : (tx.inputs.map Input.prevout).Nodup
  /-- The only input of a transaction that creates money has a short script, but not the
  shortest ones. -/
  creating : forall input, tx.inputs = [input] -> input.prevout = OutPoint.null ->
    2 ≤ input.script.bytes.length ∧ input.script.bytes.length ≤ 100
  /-- In all other transactions, no input spends nothing. -/
  spending : (forall input, tx.inputs = [input] -> input.prevout ≠ OutPoint.null) ->
    forall input, input ∈ tx.inputs -> input.prevout ≠ OutPoint.null
  amounts : forall output, output ∈ tx.outputs -> forall token, output.token = some token ->
    forall amount, token.amount = some amount -> 0 < amount
  commitments : forall output, output ∈ tx.outputs -> forall token, output.token = some token ->
    token.commitment.length ≤ 40
  /-- A token is at least one of an item and an amount. -/
  tokens : forall output, output ∈ tx.outputs -> forall token, output.token = some token ->
    token.nft.isSome = true ∨ token.amount.isSome = true
  /-- A script without a token is not taken for a token. -/
  markers : forall output, output ∈ tx.outputs -> output.token = none ->
    output.script.bytes.head? ≠ some 0xef

/-! ## The rules one by one -/

theorem hasDuplicate_eq_false_iff {seen : Std.HashSet OutPoint} {outPoints : List OutPoint} :
    hasDuplicate seen outPoints = false ↔
      outPoints.Nodup ∧ forall outPoint, outPoint ∈ outPoints -> outPoint ∉ seen := by
  induction outPoints generalizing seen with
  | nil => exact iff_of_true rfl ⟨List.nodup_nil, nofun⟩
  | cons first rest inductionHypothesis =>
      rw [hasDuplicate, Bool.or_eq_false_iff, inductionHypothesis, List.nodup_cons,
        List.forall_mem_cons, ← Bool.not_eq_true, Std.HashSet.contains_iff_mem]
      simp only [Std.HashSet.mem_insert, beq_iff_eq, not_or]
      constructor
      · rintro ⟨unseen, distinct, fresh⟩
        have absent : first ∉ rest := fun member => (fresh first member).1 rfl
        exact ⟨⟨absent, distinct⟩, unseen, fun outPoint member => (fresh outPoint member).2⟩
      · rintro ⟨⟨absent, distinct⟩, unseen, fresh⟩
        refine ⟨unseen, distinct, fun outPoint member => ⟨?_, fresh outPoint member⟩⟩
        rintro rfl
        exact absent member

theorem isCoinbase_iff {tx : Transaction} :
    tx.isCoinbase = true ↔ ∃ input, tx.inputs = [input] ∧ input.prevout = OutPoint.null := by
  unfold isCoinbase
  rcases tx.inputs with _ | ⟨first, _ | ⟨second, rest⟩⟩
  · simp
  · simp [OutPoint.isNull_iff]
  · simp

/-- A transaction that creates money has a script of an admitted length, and all
others spend only references to outputs. -/
theorem checkNullOutPoints_eq_ok_iff {tx : Transaction} :
    checkNullOutPoints tx = .ok () ↔
      (forall input, tx.inputs = [input] -> input.prevout = OutPoint.null ->
        2 ≤ input.script.bytes.length ∧ input.script.bytes.length ≤ 100) ∧
      ((forall input, tx.inputs = [input] -> input.prevout ≠ OutPoint.null) ->
        forall input, input ∈ tx.inputs -> input.prevout ≠ OutPoint.null) := by
  unfold checkNullOutPoints
  by_cases creates : tx.isCoinbase = true
  · rcases isCoinbase_iff.mp creates with ⟨only, inputs, isNull⟩
    rw [if_pos creates, inputs]
    dsimp only [List.head?_cons, Option.map_some, Option.getD_some]
    constructor
    · intro checked
      have admitted : minCoinbaseScriptSize ≤ only.script.bytes.length ∧
          only.script.bytes.length ≤ maxCoinbaseScriptSize :=
        Decidable.byContradiction fun refused => nomatch (if_neg refused).symm.trans checked
      refine ⟨fun input same _ => ?_, fun others => (others only rfl isNull).elim⟩
      cases same
      exact admitted
    · rintro ⟨creating, _⟩
      exact if_pos (creating only rfl isNull)
  · have others : forall input, tx.inputs = [input] -> input.prevout ≠ OutPoint.null :=
      fun input inputs isNull => creates (isCoinbase_iff.mpr ⟨input, inputs, isNull⟩)
    rw [if_neg creates]
    have absent : (forall input, input ∈ tx.inputs -> input.prevout ≠ OutPoint.null) ↔
        tx.inputs.findIdx? (fun input => input.prevout.isNull) = none := by
      rw [List.findIdx?_eq_none_iff]
      simp only [← OutPoint.isNull_iff, ne_eq, Bool.not_eq_true]
    rw [imp_iff_right others, absent]
    cases tx.inputs.findIdx? fun input => input.prevout.isNull with
    | none =>
        exact iff_of_true rfl
          ⟨fun input inputs isNull => (others input inputs isNull).elim, rfl⟩
    | some index => exact iff_of_false nofun fun rules => nomatch rules.2

/-- Outputs are representable when their tokens obey the rules and their scripts
are not taken for tokens. -/
private theorem isRepresentable_iff {output : Output} :
    output.IsRepresentable ↔
      (forall token, output.token = some token ->
        (token.nft.isSome = true ∨ token.amount.isSome = true) ∧
          (forall amount, token.amount = some amount -> 0 < amount) ∧
            token.commitment.length ≤ 40) ∧
      (output.token = none -> output.script.bytes.head? ≠ some 0xef) := by
  rcases output with ⟨value, script, token⟩
  unfold Output.IsRepresentable
  cases token with
  | none => simp [Token.marker]
  | some token => simp [Token.validate_eq_ok_iff, Token.maxCommitmentLength]

/-! ## The total in a machine word -/

/-- The sum of two words, unless it needs more than 64 bits. -/
def addWords? (first second : UInt64) : Option UInt64 :=
  if first.toNat + second.toNat < 2 ^ 64 then some (first + second) else none

/-- The check of outputs with the total in a word.  It has no result when an
addition needs more than 64 bits. -/
def checkOutputsInWords? (total : UInt64) (index : Nat) :
    List Output -> Option (Except Objection Unit)
  | [] => some (.ok ())
  | output :: outputs =>
    if output.value.toNat > maxMoney then some (.error (.outputValue output.value.toNat index))
    else do
      let total <- addWords? total output.value
      if total.toNat > maxMoney then return .error .totalOutputValue
      else
        match checkScriptField index output with
        | .error objection => return .error objection
        | .ok _ => checkOutputsInWords? total (index + 1) outputs

/-- Twice the greatest amount of money is far below the range of a word. -/
private theorem addWords?_of_le {first second : UInt64} (firstLe : first.toNat ≤ maxMoney)
    (secondLe : second.toNat ≤ maxMoney) :
    addWords? first second = some (first + second) ∧
    (first + second).toNat = first.toNat + second.toNat := by
  have fits : first.toNat + second.toNat < 2 ^ 64 := by
    unfold maxMoney at firstLe secondLe
    omega
  exact ⟨if_pos fits, (UInt64.toNat_add _ _).trans (Nat.mod_eq_of_lt fits)⟩

/-- No addition leaves the range of a word, and the check with words is the
check with exact totals. -/
theorem checkOutputsInWords?_eq {total : UInt64} {index : Nat} {outputs : List Output}
    (bounded : total.toNat ≤ maxMoney) :
    checkOutputsInWords? total index outputs = some (checkOutputs total.toNat index outputs) := by
  induction outputs generalizing total index with
  | nil => rfl
  | cons output outputs inductionHypothesis =>
      rw [checkOutputsInWords?, checkOutputs]
      by_cases large : output.value.toNat > maxMoney
      · rw [if_pos large, if_pos large]
      rcases addWords?_of_le bounded (Nat.le_of_not_lt large) with ⟨added, exact⟩
      rw [if_neg large, if_neg large, added, ← exact]
      change (if (total + output.value).toNat > maxMoney then _ else _) = _
      by_cases excessive : (total + output.value).toNat > maxMoney
      · rw [if_pos excessive, if_pos excessive]
        rfl
      rw [if_neg excessive, if_neg excessive]
      cases checkScriptField index output with
      | error objection => rfl
      | ok => exact inductionHypothesis (Nat.le_of_not_lt excessive)

/-! ## All rules together -/

theorem isAdmissible_of_check {tx : Transaction} (checked : tx.check = .ok ()) :
    tx.IsAdmissible := by
  rcases check_eq_ok_iff.mp checked with
    ⟨inputs, outputs, notLarge, notSmall, outputsChecked, distinct, nulls⟩
  rcases (checkOutputs_eq_ok_iff (Nat.zero_le _)).mp outputsChecked with
    ⟨values, total, representable⟩
  rw [← isSized_format] at notLarge notSmall
  rw [Nat.zero_add] at total
  have fields (output : Output) (member : output ∈ tx.outputs) :=
    isRepresentable_iff.mp (representable output member)
  exact {
    inputs := inputs
    outputs := outputs
    notSmall := notSmall
    notLarge := notLarge
    values := values
    total := total
    distinct := (hasDuplicate_eq_false_iff.mp distinct).1
    creating := (checkNullOutPoints_eq_ok_iff.mp nulls).1
    spending := (checkNullOutPoints_eq_ok_iff.mp nulls).2
    amounts := fun output member token carried => ((fields output member).1 token carried).2.1
    commitments := fun output member token carried => ((fields output member).1 token carried).2.2
    tokens := fun output member token carried => ((fields output member).1 token carried).1
    markers := fun output member => (fields output member).2 }

theorem IsAdmissible.check_eq_ok {tx : Transaction} (admissible : tx.IsAdmissible) :
    tx.check = .ok () := by
  refine check_eq_ok_iff.mpr ⟨admissible.inputs, admissible.outputs, ?_, ?_, ?_, ?_, ?_⟩
  · rw [← isSized_format]
    exact admissible.notLarge
  · rw [← isSized_format]
    exact admissible.notSmall
  · refine (checkOutputs_eq_ok_iff (Nat.zero_le _)).mpr
      ⟨admissible.values, ?_, fun output member => ?_⟩
    · rw [Nat.zero_add]
      exact admissible.total
    · refine isRepresentable_iff.mpr ⟨fun token carried => ?_, admissible.markers output member⟩
      exact ⟨admissible.tokens output member token carried,
        admissible.amounts output member token carried,
        admissible.commitments output member token carried⟩
  · exact hasDuplicate_eq_false_iff.mpr ⟨admissible.distinct, fun _ _ => Std.HashSet.not_mem_empty⟩
  · exact checkNullOutPoints_eq_ok_iff.mpr ⟨admissible.creating, admissible.spending⟩

/-- The check admits exactly the transactions that obey the documented rules.
Every other transaction is refused with the rule that it breaks, which is the
only other thing that the check ever reports.  Keeping the total of values in a
word of 64 bits makes no difference, since no addition leaves its range. -/
theorem check_eq_ok_iff_isAdmissible (tx : Transaction) :
    (tx.check = .ok () ↔ tx.IsAdmissible) ∧
      ((∃ objection, tx.check = .error objection) ↔ ¬ tx.IsAdmissible) ∧
      checkOutputsInWords? 0 0 tx.outputs = some (checkOutputs 0 0 tx.outputs) := by
  have admitted : tx.check = .ok () ↔ tx.IsAdmissible :=
    ⟨isAdmissible_of_check, IsAdmissible.check_eq_ok⟩
  refine ⟨admitted, ?_, checkOutputsInWords?_eq (Nat.zero_le _)⟩
  rw [← admitted]
  cases tx.check with
  | ok => exact iff_of_false nofun fun refused => refused rfl
  | error objection => exact iff_of_true ⟨objection, rfl⟩ nofun

end Transaction
end SpendRules

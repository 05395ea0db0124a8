import SpendRules.Proofs.Transaction.Admission

namespace SpendRules
namespace Transaction

/-!
# What is spent is created or paid

The check of values reports a fee exactly when all values and both totals are
money that can exist, and no more is created than is spent.  The fee is then what
is left, so nothing is gained or lost.

Totals are exact numbers in the check.  They can be kept in words of 64 bits if
the additions are checked, since a sum that leaves the range of a word is far
beyond the money that can exist.  The subtraction in the end needs no check: the
totals have been compared before.
-/

/-! ## Totals of money -/

/-- Every value and the total of the outputs are money that can exist. -/
structure IsMoney (outputs : List Output) : Prop where
  values : forall output, output ∈ outputs -> output.value.toNat ≤ maxMoney
  total : totalValue outputs ≤ maxMoney

/-- The value that stands for a missing output is more than the money that can
exist. -/
theorem isPresent_of_le_maxMoney {output : Output} (within : output.value.toNat ≤ maxMoney) :
    output.isPresent = true := by
  unfold Output.isPresent
  rw [bne_iff_ne]
  intro missing
  rw [missing] at within
  exact absurd within (by decide)

private theorem addMoney?_eq_some_iff {total value sum : Nat} :
    addMoney? total value = some sum ↔ value ≤ maxMoney ∧ total + value ≤ maxMoney ∧
      total + value = sum := by
  unfold addMoney?
  by_cases within : value ≤ maxMoney ∧ total + value ≤ maxMoney
  · rw [if_pos within, Option.some.injEq, ← and_assoc]
    exact (and_iff_right within).symm
  · rw [if_neg within]
    exact iff_of_false nofun fun sums => within ⟨sums.1, sums.2.1⟩

/-- A total that goes on from another one has a result when it stays within the
money that can exist. -/
private theorem foldlM_addMoney?_eq_some_iff {total sum : Nat} {outputs : List Output}
    (within : total ≤ maxMoney) :
    outputs.foldlM (fun total output => addMoney? total output.value.toNat) total = some sum ↔
      (forall output, output ∈ outputs -> output.value.toNat ≤ maxMoney) ∧
        total + totalValue outputs ≤ maxMoney ∧
        total + totalValue outputs = sum := by
  induction outputs generalizing total with
  | nil =>
      rw [List.foldlM_nil, totalValue, Nat.add_zero]
      exact ⟨fun same => ⟨List.forall_mem_nil _, within, Option.some.inj same⟩,
        fun holds => congrArg some holds.2.2⟩
  | cons output outputs inductionHypothesis =>
      rw [List.foldlM_cons, List.forall_mem_cons, totalValue, ← Nat.add_assoc]
      change (addMoney? total output.value.toNat).bind _ = some sum ↔ _
      rw [Option.bind_eq_some_iff]
      constructor
      · rintro ⟨middle, added, rest⟩
        rcases addMoney?_eq_some_iff.mp added with ⟨value, still, rfl⟩
        rcases (inductionHypothesis still).mp rest with ⟨values, totals⟩
        exact ⟨⟨value, values⟩, totals⟩
      · rintro ⟨⟨value, values⟩, totals⟩
        have still := Nat.le_trans (Nat.le_add_right _ _) totals.1
        exact ⟨_, addMoney?_eq_some_iff.mpr ⟨value, still, rfl⟩,
          (inductionHypothesis still).mpr ⟨values, totals⟩⟩

private theorem totalCreated?_eq_some_iff {sum : Nat} {outputs : List Output} :
    totalCreated? outputs = some sum ↔ IsMoney outputs ∧ totalValue outputs = sum := by
  unfold totalCreated?
  rw [foldlM_addMoney?_eq_some_iff (Nat.zero_le _), Nat.zero_add, ← and_assoc]
  exact and_congr_left fun _ =>
    ⟨fun holds => ⟨holds.1, holds.2⟩, fun money => ⟨money.values, money.total⟩⟩

/-- The total of spent outputs is a total of money, whatever is reported in the
other cases. -/
private theorem totalSpent_eq_ok_iff_foldlM {total index sum : Nat} {outputs : List Output} :
    totalSpent total index outputs = .ok sum ↔
      outputs.foldlM (fun total output => addMoney? total output.value.toNat) total = some sum := by
  induction outputs generalizing total index with
  | nil =>
      rw [totalSpent, List.foldlM_nil, Except.ok.injEq]
      exact Option.some_inj.symm
  | cons output outputs inductionHypothesis =>
      rw [totalSpent, List.foldlM_cons]
      change _ ↔ (addMoney? total output.value.toNat).bind _ = some sum
      cases added : addMoney? total output.value.toNat with
      | none => exact iff_of_false (by split <;> nofun) nofun
      | some middle =>
          have present := isPresent_of_le_maxMoney (addMoney?_eq_some_iff.mp added).1
          rw [present, Bool.not_true, if_neg Bool.false_ne_true]
          exact inductionHypothesis

private theorem totalSpent_eq_ok_iff {sum : Nat} {outputs : List Output} :
    totalSpent 0 0 outputs = .ok sum ↔ IsMoney outputs ∧ totalValue outputs = sum :=
  totalSpent_eq_ok_iff_foldlM.trans totalCreated?_eq_some_iff

/-! ## The fee -/

/-- The transaction creates no more than it spends, and all of it is money that
can exist. -/
structure Affords (tx : Transaction) (spent : List Output) : Prop where
  spentMoney : IsMoney spent
  createdMoney : IsMoney tx.outputs
  enough : totalValue tx.outputs ≤ totalValue spent

/-- The four things that the check of values can come to. -/
private inductive Outcome (tx : Transaction) (spent : List Output) :
    Except FeeError Nat -> Prop where
  | created (creates : tx.isCoinbase = true) : Outcome tx spent (.ok 0)
  | unpaired (spends : tx.isCoinbase = false) (unpaired : spent.length ≠ tx.inputs.length) :
    Outcome tx spent (.error (.spentOutputCount spent.length tx.inputs.length))
  | afforded (spends : tx.isCoinbase = false) (paired : spent.length = tx.inputs.length)
    (affords : tx.Affords spent) :
    Outcome tx spent (.ok (totalValue spent - totalValue tx.outputs))
  | refused (spends : tx.isCoinbase = false) (paired : spent.length = tx.inputs.length)
    (unaffordable : ¬ tx.Affords spent) (objection : Objection) :
    Outcome tx spent (.error (.refused objection))

private theorem outcome_fee (tx : Transaction) (spent : List Output) :
    Outcome tx spent (tx.fee spent) := by
  unfold fee
  cases creates : tx.isCoinbase with
  | true => exact .created creates
  | false =>
      rw [if_neg Bool.false_ne_true]
      by_cases paired : spent.length = tx.inputs.length
      · rw [if_neg (not_not_intro paired)]
        cases totalIn : totalSpent 0 0 spent with
        | error objection =>
            refine .refused creates paired (fun affords => ?_) objection
            cases totalIn.symm.trans (totalSpent_eq_ok_iff.mpr ⟨affords.spentMoney, rfl⟩)
        | ok total =>
            rcases totalSpent_eq_ok_iff.mp totalIn with ⟨spentMoney, rfl⟩
            cases totalOut : totalCreated? tx.outputs with
            | none =>
                refine .refused creates paired (fun affords => ?_) .totalOutputValue
                cases totalOut.symm.trans
                  (totalCreated?_eq_some_iff.mpr ⟨affords.createdMoney, rfl⟩)
            | some total =>
                rcases totalCreated?_eq_some_iff.mp totalOut with ⟨createdMoney, rfl⟩
                dsimp only
                by_cases short : totalValue spent < totalValue tx.outputs
                · rw [if_pos short]
                  exact .refused creates paired
                    (fun affords => Nat.not_lt_of_le affords.enough short) _
                · rw [if_neg short]
                  exact .afforded creates paired ⟨spentMoney, createdMoney, Nat.le_of_not_lt short⟩
      · rw [if_pos paired]
        exact .unpaired creates paired

/-- Where a fee is left, all that is spent and created is money. -/
theorem affords_of_fee {tx : Transaction} {spent : List Output} {fee : Nat}
    (spends : tx.isCoinbase = false) (left : tx.fee spent = .ok fee) : tx.Affords spent := by
  have outcome := outcome_fee tx spent
  rw [left] at outcome
  cases outcome with
  | created creates => cases spends.symm.trans creates
  | afforded _ _ affords => exact affords

/-! ## Totals in machine words -/

/-- The difference of two words, unless it is negative. -/
def subtractWords? (first second : UInt64) : Option UInt64 :=
  if second.toNat ≤ first.toNat then some (first - second) else none

/-- Add a value to a total in a word, with a checked addition. -/
def addMoneyInWords? (total value : UInt64) : Option UInt64 :=
  (addWords? total value).filter fun sum =>
    decide (value.toNat ≤ maxMoney) && decide (sum.toNat ≤ maxMoney)

def totalSpentInWords (total : UInt64) (index : Nat) : List Output -> Except Objection UInt64
  | [] => .ok total
  | output :: outputs =>
    if !output.isPresent then .error (.missingOutput index)
    else
      match addMoneyInWords? total output.value with
      | some total => totalSpentInWords total (index + 1) outputs
      | none => .error .inputValue

def totalCreatedInWords? (outputs : List Output) : Option UInt64 :=
  outputs.foldlM (fun total output => addMoneyInWords? total output.value) 0

/-- A report about the values of a transaction: the rule that is broken, if there
is one, and the fee. -/
structure ValueReport where
  objection : Option Objection
  fee : UInt64

/-- The report that the check of values comes to. -/
def ValueReport.ofFee : Except FeeError Nat -> Except FeeError ValueReport
  | .ok fee => .ok { objection := none, fee := UInt64.ofNat fee }
  | .error (.refused objection) => .ok { objection := some objection, fee := 0 }
  | .error failure => .error failure

/-- The report, made with totals in words.  There is none when the subtraction is
one below zero. -/
def reportInWords? (tx : Transaction) (spent : List Output) :
    Option (Except FeeError ValueReport) :=
  if tx.isCoinbase then some (.ok { objection := none, fee := 0 })
  else if spent.length ≠ tx.inputs.length then
    some (.error (.spentOutputCount spent.length tx.inputs.length))
  else
    match totalSpentInWords 0 0 spent with
    | .error objection => some (.ok { objection := some objection, fee := 0 })
    | .ok totalIn =>
      match totalCreatedInWords? tx.outputs with
      | none => some (.ok { objection := some .totalOutputValue, fee := 0 })
      | some totalOut =>
        if totalIn < totalOut then some (.ok { objection := some .insufficientInput, fee := 0 })
        else do
          let fee <- subtractWords? totalIn totalOut
          return .ok { objection := none, fee := fee }

/-- A sum that needs more than 64 bits is no money either. -/
private theorem addMoneyInWords?_eq (total value : UInt64) :
    (addMoneyInWords? total value).map UInt64.toNat = addMoney? total.toNat value.toNat := by
  unfold addMoneyInWords? addWords? addMoney?
  by_cases fits : total.toNat + value.toNat < 2 ^ 64
  · have exact : (total + value).toNat = total.toNat + value.toNat :=
      (UInt64.toNat_add _ _).trans (Nat.mod_eq_of_lt fits)
    rw [if_pos fits, Option.filter_some, exact]
    by_cases within : value.toNat ≤ maxMoney ∧ total.toNat + value.toNat ≤ maxMoney
    · rw [if_pos within, if_pos (by simpa using within)]
      exact congrArg some exact
    · rw [if_neg within, if_neg (by simpa using within)]
      rfl
  · have beyond : ¬ (value.toNat ≤ maxMoney ∧ total.toNat + value.toNat ≤ maxMoney) := by
      unfold maxMoney
      omega
    rw [if_neg fits, if_neg beyond]
    rfl

private theorem totalSpentInWords_eq (total : UInt64) (index : Nat) (outputs : List Output) :
    (totalSpentInWords total index outputs).map UInt64.toNat =
      totalSpent total.toNat index outputs := by
  induction outputs generalizing total index with
  | nil => rfl
  | cons output outputs inductionHypothesis =>
      rw [totalSpentInWords, totalSpent, ← addMoneyInWords?_eq]
      cases output.isPresent with
      | false => rfl
      | true =>
          cases addMoneyInWords? total output.value with
          | none => rfl
          | some total => exact inductionHypothesis total (index + 1)

private theorem totalCreatedInWords?_eq (outputs : List Output) :
    (totalCreatedInWords? outputs).map UInt64.toNat = totalCreated? outputs := by
  have onto (total : UInt64) :
      (outputs.foldlM (fun total output => addMoneyInWords? total output.value) total).map
        UInt64.toNat =
        outputs.foldlM (fun total output => addMoney? total output.value.toNat) total.toNat := by
    induction outputs generalizing total with
    | nil => rfl
    | cons output outputs inductionHypothesis =>
        rw [List.foldlM_cons, List.foldlM_cons, ← addMoneyInWords?_eq]
        cases addMoneyInWords? total output.value with
        | none => rfl
        | some total => exact inductionHypothesis total
  exact onto 0

/-- No subtraction is one below zero, and the report made with words is that of
the exact totals. -/
theorem reportInWords?_eq (tx : Transaction) (spent : List Output) :
    tx.reportInWords? spent = some (ValueReport.ofFee (tx.fee spent)) := by
  unfold reportInWords? fee
  cases tx.isCoinbase with
  | true => rfl
  | false =>
      rw [if_neg Bool.false_ne_true, if_neg Bool.false_ne_true]
      by_cases paired : spent.length = tx.inputs.length
      · rw [if_neg (not_not_intro paired), if_neg (not_not_intro paired), ← totalCreatedInWords?_eq]
        have totals : (totalSpentInWords 0 0 spent).map UInt64.toNat = totalSpent 0 0 spent :=
          totalSpentInWords_eq 0 0 spent
        rw [← totals]
        cases totalSpentInWords 0 0 spent with
        | error objection => rfl
        | ok totalIn =>
            cases totalCreatedInWords? tx.outputs with
            | none => rfl
            | some totalOut =>
                dsimp only [Except.map, Option.map_some]
                by_cases short : totalIn < totalOut
                · rw [if_pos short, if_pos (UInt64.lt_iff_toNat_lt.mp short)]
                  rfl
                · have enough : totalOut.toNat ≤ totalIn.toNat :=
                    Nat.le_of_not_lt fun less => short (UInt64.lt_iff_toNat_lt.mpr less)
                  have difference : subtractWords? totalIn totalOut = some (totalIn - totalOut) :=
                    if_pos enough
                  rw [if_neg short, if_neg (Nat.not_lt_of_le enough), difference, ValueReport.ofFee,
                    ← UInt64.toNat_sub_of_le _ _ (UInt64.le_iff_toNat_le.mpr enough),
                      UInt64.ofNat_toNat]
                  rfl
      · rw [if_pos paired, if_pos paired]
        rfl

/-- The check of values conserves value.

A fee is reported for a transaction that creates money, and then it is zero.  For
others it is reported when there is one spent output for each input, all values
and both totals are money that can exist, and no more is created than is spent.
What is spent is then exactly what is created and the fee.  The two other outcomes
are told apart by the number of spent outputs.

The report can be made with totals in words.  Additions are checked there, the
subtraction in the end never goes below zero, and the fee beside a broken rule is
zero. -/
theorem fee_conserves_value (tx : Transaction) (spent : List Output) :
    (forall fee, tx.fee spent = .ok fee ↔
        (tx.isCoinbase = true ∧ fee = 0) ∨
          (tx.isCoinbase = false ∧ spent.length = tx.inputs.length ∧ tx.Affords spent ∧
            totalValue spent = totalValue tx.outputs + fee)) ∧
      (forall spentCount inputCount,
          tx.fee spent = .error (.spentOutputCount spentCount inputCount) ↔
        tx.isCoinbase = false ∧ spent.length ≠ tx.inputs.length ∧ spentCount = spent.length ∧
          inputCount = tx.inputs.length) ∧
      ((∃ objection, tx.fee spent = .error (.refused objection)) ↔
        tx.isCoinbase = false ∧ spent.length = tx.inputs.length ∧ ¬ tx.Affords spent) ∧
      tx.reportInWords? spent = some (ValueReport.ofFee (tx.fee spent)) := by
  have outcome := outcome_fee tx spent
  have report := reportInWords?_eq tx spent
  generalize tx.fee spent = result at outcome report ⊢
  cases outcome with
  | created creates =>
      refine ⟨fun fee => ?_, fun _ _ => ?_, ?_, report⟩
      · simp [creates, eq_comm]
      · simp [creates]
      · simp [creates]
  | unpaired spends unpaired =>
      refine ⟨fun fee => ?_, fun _ _ => ?_, ?_, report⟩
      · simp [spends, unpaired]
      · simp [spends, unpaired, eq_comm]
      · simp [unpaired]
  | afforded spends paired affords =>
      refine ⟨fun fee => ?_, fun _ _ => ?_, ?_, report⟩
      · have enough := affords.enough
        rw [Except.ok.injEq]
        constructor
        · rintro rfl
          exact Or.inr ⟨spends, paired, affords, by omega⟩
        · rintro (⟨creates, _⟩ | ⟨_, _, _, conserved⟩)
          · cases spends.symm.trans creates
          · omega
      · simp [paired]
      · simp [affords]
  | refused spends paired unaffordable objection =>
      refine ⟨fun fee => ?_, fun _ _ => ?_, ?_, report⟩
      · simp [spends, unaffordable]
      · simp [paired]
      · simp [spends, paired, unaffordable]

end Transaction
end SpendRules

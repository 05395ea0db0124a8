import SpendRules.Text.Digits

namespace SpendRules
namespace Text

/-!
# Digits stand for the number that was written

A number is written from its last digit on, and read from its first digit on.
Nothing is lost on the way, as long as there is a character for every digit.
-/

theorem digitValue_digitChar :
    forall value, value < 36 -> digitValue (digitChar value) = value := by
  decide

section

variable {base : Nat} (large : 1 < base)

/-- Reading goes on behind the digits as if they had been read as their number. -/
private theorem foldl_digitsOnto (small : base ≤ 36) (value : Nat) (rest : List Char) :
    (digitsOnto base large value rest).foldl (fun value char => base * value + digitValue char) 0 =
      rest.foldl (fun value char => base * value + digitValue char) value := by
  fun_induction digitsOnto base large value rest with
  | case1 value rest single =>
      rw [List.foldl_cons, digitValue_digitChar value (Nat.lt_of_lt_of_le single small),
        Nat.mul_zero, Nat.zero_add]
  | case2 value rest several inductionHypothesis =>
      have digit : value % base < base := Nat.mod_lt value (Nat.lt_trans Nat.zero_lt_one large)
      rw [inductionHypothesis, List.foldl_cons,
        digitValue_digitChar _ (Nat.lt_of_lt_of_le digit small), Nat.div_add_mod]

/-- What holds of every digit holds of the digits of a number. -/
theorem all_digitsOnto {holds : Char -> Bool}
    (digits : forall value, value < base -> holds (digitChar value) = true) (value : Nat)
    (rest : List Char) : (digitsOnto base large value rest).all holds = rest.all holds := by
  fun_induction digitsOnto base large value rest with
  | case1 value rest single => rw [List.all_cons, digits value single, Bool.true_and]
  | case2 value rest several inductionHypothesis =>
      have digit : value % base < base := Nat.mod_lt value (Nat.lt_trans Nat.zero_lt_one large)
      rw [inductionHypothesis, List.all_cons, digits _ digit, Bool.true_and]

/-- The first digit is zero only where zero is the number. -/
theorem exists_digitsOnto (value : Nat) (rest : List Char) :
    ∃ first more, digitsOnto base large value rest = digitChar first :: more ∧ first < base ∧
      (first = 0 -> value = 0 ∧ more = rest) := by
  fun_induction digitsOnto base large value rest with
  | case1 value rest single => exact ⟨value, rest, rfl, single, fun zero => ⟨zero, rfl⟩⟩
  | case2 value rest several inductionHypothesis =>
      rcases inductionHypothesis with ⟨first, more, same, digit, leading⟩
      refine ⟨first, more, same, digit, fun zero => ?_⟩
      have positive : 0 < value / base :=
        Nat.div_pos (Nat.le_of_not_lt several) (Nat.lt_trans Nat.zero_lt_one large)
      exact absurd (leading zero).1 (Nat.ne_of_gt positive)

/-- The digits of a number stand for it. -/
theorem numeral_digitsOnto (small : base ≤ 36) (value : Nat) :
    numeral? base (digitsOnto base large value []) = some value := by
  have digits : (digitsOnto base large value []).all (isDigitIn base) = true := by
    refine all_digitsOnto large (fun digit below => decide_eq_true ?_) value []
    rwa [digitValue_digitChar digit (Nat.lt_of_lt_of_le below small)]
  rcases exists_digitsOnto large value [] with ⟨first, more, same, _, _⟩
  have nonempty : (digitsOnto base large value []).isEmpty = false := by
    rw [same]
    rfl
  rw [numeral?, nonempty, digits, foldl_digitsOnto large small]
  rfl

end

theorem numeral_decimal (value : Nat) : numeral? 10 (decimal value) = some value :=
  numeral_digitsOnto _ (by decide) value

theorem isDigit_digitChar : forall digit, digit < 10 -> (digitChar digit).isDigit = true := by
  decide

theorem all_isDigit_decimal (value : Nat) : (decimal value).all Char.isDigit = true :=
  all_digitsOnto _ isDigit_digitChar value []

end Text
end SpendRules

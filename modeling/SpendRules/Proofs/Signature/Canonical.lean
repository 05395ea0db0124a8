import SpendRules.Proofs.Codec.Spelling
import SpendRules.Signature.Encoding

namespace SpendRules
namespace Signature

/-!
# Canonical signatures

A canonical signature of the older scheme is told here by the two integers that it
is written for.  The check knows none of them.  It looks at single bytes of the
signature, at offsets that it computes from other bytes, which anybody may have
chosen.

In a signature that is long enough, a first integer and what announces the second
one can be cut off, or the length of the first integer is refused.  Once they are
cut off, every byte that the check looks at is found in one of the parts.
-/

/-- The bytes are a canonical integer: not empty, not negative, and without a
superfluous zero in front. -/
def IsCanonicalInteger : Bytes -> Prop
  | [] => False
  | [only] => only < 0x80
  | first :: second :: _ => first < 0x80 ∧ ¬ (first = 0x00 ∧ second < 0x80)

instance : DecidablePred IsCanonicalInteger
  | [] => inferInstanceAs (Decidable False)
  | [only] => inferInstanceAs (Decidable (only < 0x80))
  | first :: second :: _ =>
      inferInstanceAs (Decidable (first < 0x80 ∧ ¬ (first = 0x00 ∧ second < 0x80)))

/-- A sequence of two integers, each behind a mark and its length. -/
def sequenceOf (first second : Bytes) : Bytes :=
  [0x30, UInt8.ofNat (4 + first.length + second.length)] ++
    [0x02, UInt8.ofNat first.length] ++ first ++
    [0x02, UInt8.ofNat second.length] ++ second

private theorem sequenceOf_eq (first second : Bytes) :
    sequenceOf first second =
      0x30 :: UInt8.ofNat (4 + first.length + second.length) :: 0x02 :: UInt8.ofNat first.length ::
        (first ++ 0x02 :: UInt8.ofNat second.length :: second) := by
  simp only [sequenceOf, List.cons_append, List.nil_append, List.append_assoc]

private theorem getElem?_behind (front rest : Bytes) (index : Nat) :
    (front ++ rest)[front.length + index]? = rest[index]? := by
  rw [List.getElem?_append_right (Nat.le_add_right _ _), Nat.add_sub_cancel_left]

/-- An integer is found behind its mark and its length, whatever stands around
them. -/
private theorem hasCanonicalInteger_behind (front : Bytes) (mark field : UInt8)
    (integer rest : Bytes) :
    hasCanonicalInteger (front ++ mark :: field :: (integer ++ rest)) front.length integer.length =
      some (decide (mark = 0x02 ∧ IsCanonicalInteger integer)) := by
  have atMark := getElem?_behind front (mark :: field :: (integer ++ rest)) 0
  rw [Nat.add_zero] at atMark
  unfold hasCanonicalInteger
  rw [atMark, getElem?_behind, getElem?_behind]
  by_cases marked : mark = 0x02
  · rcases integer with _ | ⟨first, _ | ⟨second, others⟩⟩
    · simp [marked, IsCanonicalInteger]
    · simp only [marked, IsCanonicalInteger, ← Bytes.and_highBit_eq_zero_iff]
      by_cases positive : first &&& 0x80 = 0 <;> simp [positive]
    · simp only [marked, IsCanonicalInteger, ← Bytes.and_highBit_eq_zero_iff]
      by_cases positive : first &&& 0x80 = 0 <;> by_cases zero : first = 0x00 <;>
        by_cases other : second &&& 0x80 = 0 <;> simp [positive, zero, other]
  · simp [marked]

/-- The check itself looks at four bytes and asks for two integers. -/
private theorem inspect_of_bytes {signature : Bytes} {mark total firstField secondField : UInt8}
    {firstLength secondLength : Nat} {firstHolds secondHolds : Bool}
    (length : signature.length = firstLength + secondLength + 6)
    (long : 2 ≤ firstLength + secondLength) (short : firstLength + secondLength ≤ 66)
    (atMark : signature[0]? = some mark) (atTotal : signature[1]? = some total)
    (atFirstField : signature[3]? = some firstField) (announced : firstField.toNat = firstLength)
    (atSecondField : signature[5 + firstLength]? = some secondField)
    (firstInteger : hasCanonicalInteger signature 2 firstLength = some firstHolds)
    (secondInteger : hasCanonicalInteger signature (firstLength + 4) secondLength =
      some secondHolds) :
    inspect signature = some (mark == 0x30 && total.toNat == 4 + firstLength + secondLength &&
      secondField.toNat == secondLength && firstHolds && secondHolds) := by
  have total_eq : firstLength + secondLength + 6 - 2 = 4 + firstLength + secondLength := by omega
  unfold inspect
  rw [atMark, atTotal, atFirstField, length, total_eq, if_neg (by simp; omega)]
  simp only [Option.bind_eq_bind, Option.bind_some, announced, atSecondField, firstInteger]
  by_cases marked : mark = 0x30
  · by_cases whole : total.toNat = 4 + firstLength + secondLength
    · rw [if_neg (by simp [marked]), if_neg (by simp [whole]), if_neg (by omega)]
      by_cases same : secondField.toNat = secondLength
      · rw [if_neg (by simp [same]), same, secondInteger]
        cases firstHolds <;> simp [marked, whole]
      · rw [if_pos (by simp; omega)]
        simp [same]
    · simp [marked, whole]
  · simp [marked]

section

variable {mark total firstMark firstField : UInt8}

/-- Where the first integer and what announces the second one can be cut off, the
check compares the parts. -/
private theorem inspect_parts {secondMark secondField : UInt8} {first second : Bytes}
    (announced : firstField.toNat = first.length) (long : 2 ≤ first.length + second.length)
    (short : first.length + second.length ≤ 66) :
    inspect (mark :: total :: firstMark :: firstField ::
        (first ++ secondMark :: secondField :: second)) =
      some (mark == 0x30 && total.toNat == 4 + first.length + second.length &&
        secondField.toNat == second.length &&
        decide (firstMark = 0x02 ∧ IsCanonicalInteger first) &&
        decide (secondMark = 0x02 ∧ IsCanonicalInteger second)) := by
  have length : (mark :: total :: firstMark :: firstField ::
      (first ++ secondMark :: secondField :: second)).length =
      first.length + second.length + 6 := by
    simp only [List.length_cons, List.length_append]
    omega
  refine inspect_of_bytes length long short rfl rfl rfl announced ?_ ?_ ?_
  · rw [Nat.add_comm]
    exact getElem?_behind (mark :: total :: firstMark :: firstField :: first)
      (secondMark :: secondField :: second) 1
  · exact hasCanonicalInteger_behind [mark, total] firstMark firstField first
      (secondMark :: secondField :: second)
  · have found := hasCanonicalInteger_behind
      (mark :: total :: firstMark :: firstField :: first) secondMark
      secondField second []
    rwa [List.append_nil] at found

/-- Where nothing can be cut off, the length of the first integer is refused. -/
private theorem inspect_cut {rest : Bytes} (long : 4 ≤ rest.length)
    (cut : rest.length ≤ firstField.toNat + 1) :
    inspect (mark :: total :: firstMark :: firstField :: rest) = some false := by
  have length : (mark :: total :: firstMark :: firstField :: rest).length = rest.length + 4 := by
    simp only [List.length_cons]
  unfold inspect
  rw [length]
  by_cases short : rest.length ≤ 68
  · rw [if_neg (by simp; omega)]
    have refused : 5 + firstField.toNat ≥ rest.length + 4 := by omega
    simp [refused]
  · rw [if_pos (by simp; omega)]
    rfl

end

/-- Four bytes come before the first integer. -/
private theorem exists_parts {signature : Bytes} (long : 8 ≤ signature.length) :
    ∃ mark total firstMark firstField rest,
        signature = mark :: total :: firstMark :: firstField :: rest ∧
      4 ≤ rest.length := by
  rcases signature with _ | ⟨mark, _ | ⟨total, _ | ⟨firstMark, _ | ⟨firstField, rest⟩⟩⟩⟩
  case cons.cons.cons.cons =>
    rw [List.length_cons, List.length_cons, List.length_cons, List.length_cons] at long
    exact ⟨mark, total, firstMark, firstField, rest, rfl, by omega⟩
  all_goals exact absurd long (by simp)

/-- Two bytes announce the second integer behind the first one. -/
private theorem exists_cut {rest : Bytes} {firstLength : Nat}
    (fits : firstLength + 1 < rest.length) :
    ∃ first secondMark secondField second, rest = first ++ secondMark :: secondField :: second ∧
      first.length = firstLength := by
  have taken : (rest.take firstLength).length = firstLength := by
    rw [List.length_take]
    omega
  have left : (rest.drop firstLength).length = rest.length - firstLength := List.length_drop
  have whole := List.take_append_drop firstLength rest
  rcases behind : rest.drop firstLength with _ | ⟨secondMark, _ | ⟨secondField, second⟩⟩
  · rw [behind, List.length_nil] at left
    omega
  · rw [behind, List.length_singleton] at left
    omega
  · rw [behind] at whole
    exact ⟨_, secondMark, secondField, second, whole.symm, taken⟩

/-- The signature is one of two canonical integers, and neither too short nor too
long. -/
def IsSequence (signature : Bytes) : Prop :=
  8 ≤ signature.length ∧ signature.length ≤ 72 ∧
    ∃ first second, IsCanonicalInteger first ∧ IsCanonicalInteger second ∧
      signature = sequenceOf first second

/-- Of a sequence, the first integer can be cut off. -/
private theorem fits_of_eq_sequenceOf {mark total firstMark firstField : UInt8}
    {rest first second : Bytes} (short : rest.length ≤ 68)
    (same : mark :: total :: firstMark :: firstField :: rest = sequenceOf first second) :
    firstField.toNat + 1 < rest.length := by
  simp only [sequenceOf_eq, List.cons.injEq] at same
  rcases same with ⟨_, _, _, rfl, rfl⟩
  rw [List.length_append, List.length_cons, List.length_cons] at short ⊢
  rw [UInt8.toNat_ofNat_of_lt' (show first.length < 256 by omega)]
  omega

/-- The parts that are cut off are those of a sequence, if they are those of any. -/
private theorem eq_sequenceOf_iff {mark total firstMark firstField secondMark secondField : UInt8}
    {first second : Bytes} (announced : firstField.toNat = first.length)
    (short : first.length + second.length ≤ 66) {left right : Bytes} :
    mark :: total :: firstMark :: firstField :: (first ++ secondMark :: secondField :: second) =
        sequenceOf left right ↔
      (mark = 0x30 ∧ total.toNat = 4 + first.length + second.length ∧ firstMark = 0x02 ∧
          secondMark = 0x02 ∧
        secondField.toNat = second.length) ∧ left = first ∧ right = second := by
  rw [sequenceOf_eq]
  simp only [List.cons.injEq]
  constructor
  · rintro ⟨rfl, rfl, rfl, rfl, same⟩
    have lengths := congrArg List.length same
    simp only [List.length_append, List.length_cons] at lengths
    rw [UInt8.toNat_ofNat_of_lt' (show left.length < 256 by omega)] at announced
    rcases List.append_inj same announced.symm with ⟨rfl, others⟩
    simp only [List.cons.injEq] at others
    rcases others with ⟨rfl, rfl, rfl⟩
    refine ⟨⟨rfl, ?_, rfl, rfl, ?_⟩, rfl, rfl⟩
    · exact UInt8.toNat_ofNat_of_lt' (show 4 + first.length + second.length < 256 by omega)
    · exact UInt8.toNat_ofNat_of_lt' (show second.length < 256 by omega)
  · rintro ⟨⟨rfl, whole, rfl, rfl, secondAnnounced⟩, rfl, rfl⟩
    rw [← whole, ← announced, ← secondAnnounced]
    simp only [UInt8.ofNat_toNat, and_self]

private theorem exists_verdict (signature : Bytes) :
    ∃ verdict, inspect signature = some verdict ∧ (verdict = true ↔ IsSequence signature) := by
  by_cases bounded : 8 ≤ signature.length ∧ signature.length ≤ 72
  case neg =>
    refine ⟨false, ?_, iff_of_false Bool.false_ne_true
      fun sequence => bounded ⟨sequence.1, sequence.2.1⟩⟩
    unfold inspect
    rw [if_pos (by simp; omega)]
    rfl
  rcases bounded with ⟨long, short⟩
  rcases exists_parts long with ⟨mark, total, firstMark, firstField, rest, rfl, restLong⟩
  by_cases cut : rest.length ≤ firstField.toNat + 1
  · refine ⟨false, inspect_cut restLong cut, iff_of_false Bool.false_ne_true ?_⟩
    rintro ⟨_, _, first, second, _, _, same⟩
    simp only [List.length_cons] at short
    exact Nat.not_lt_of_le cut (fits_of_eq_sequenceOf (by omega) same)
  rcases exists_cut (Nat.lt_of_not_le cut) with
    ⟨first, secondMark, secondField, second, rfl, announced⟩
  have length : first.length + second.length ≤ 66 ∧ 2 ≤ first.length + second.length := by
    simp only [List.length_cons, List.length_append] at long short
    omega
  refine ⟨_, inspect_parts announced.symm length.2 length.1, ?_⟩
  simp only [IsSequence, eq_sequenceOf_iff announced.symm length.1, Bool.and_eq_true, beq_iff_eq,
    decide_eq_true_eq]
  constructor
  · rintro ⟨⟨⟨⟨marked, whole⟩, secondAnnounced⟩, firstMarked, firstHolds⟩, secondMarked,
      secondHolds⟩
    exact ⟨long, short, first, second, firstHolds, secondHolds,
      ⟨marked, whole, firstMarked, secondMarked, secondAnnounced⟩, rfl, rfl⟩
  · rintro ⟨_, _, _, _, firstHolds, secondHolds,
      ⟨marked, whole, firstMarked, secondMarked, secondAnnounced⟩, rfl, rfl⟩
    exact ⟨⟨⟨⟨marked, whole⟩, secondAnnounced⟩, firstMarked, firstHolds⟩, secondMarked, secondHolds⟩

/-- The check accepts exactly the sequences of two canonical integers, in which all
lengths are right.  For any bytes, it comes to an end without looking at a byte
that does not exist. -/
theorem inspect_exact (signature : Bytes) :
    inspect signature = some (isCanonical signature) ∧
    (isCanonical signature = true ↔ IsSequence signature) := by
  rcases exists_verdict signature with ⟨verdict, inspected, accepts⟩
  unfold isCanonical
  rw [inspected]
  exact ⟨rfl, accepts⟩

/-- A sequence whose second integer has a zero in front, as its highest bit asks
for, and one whose first integer has it without need. -/
example : isCanonical [0x30, 0x07, 0x02, 0x01, 0x01, 0x02, 0x02, 0x00, 0x80] = true ∧
    isCanonical [0x30, 0x07, 0x02, 0x02, 0x00, 0x01, 0x02, 0x01, 0x01] = false := by
  decide

end Signature
end SpendRules

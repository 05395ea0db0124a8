import Mathlib.Data.List.Basic
import Mathlib.Tactic.ByContra
import SpendRules.Proofs.Codec.Spelling
import SpendRules.Script.Number

namespace SpendRules
namespace ScriptNumber

/-!
# Numbers and the elements that stand for them

An element of some length stands for a number below the weight of its sign bit,
and a number below this weight needs no more bytes.  Bounds in bytes and bounds
on magnitudes are the same thing.

An element is in its shortest form exactly when it is as long as its number
needs.  Of one length there is at most one element that stands for a number
other than zero, so every number has one shortest form.  It is the one that is
written, and what looks at the last two bytes of an element recognizes it.
-/

private theorem signWeight_eq (length : Nat) : signWeight length = 2 ^ (8 * length - 1) := by
  rw [signWeight, Nat.one_shiftLeft]

theorem natAbs_value_lt (element : Bytes) :
    (value element).natAbs < 2 ^ (8 * element.length - 1) := by
  unfold value
  rw [signWeight_eq]
  by_cases positive : element.toNatLE < 2 ^ (8 * element.length - 1)
  · rw [if_pos positive]
    exact positive
  · rw [if_neg positive, Int.natAbs_neg, Int.natAbs_natCast]
    have bound : element.toNatLE < 2 ^ (8 * element.length) := by
      rw [Nat.pow_mul]
      exact element.toNatLE_lt
    cases length : element.length with
    | zero =>
        rw [length] at bound positive
        exact (positive bound).elim
    | succ rest =>
        have doubled : 2 ^ (8 * (rest + 1)) = 2 * 2 ^ (8 * (rest + 1) - 1) := by
          rw [← Nat.pow_succ']
          rfl
        rw [length] at bound
        omega

theorem encodedLength_le_iff {number : Int} {size : Nat} :
    encodedLength number ≤ size ↔ number.natAbs < 2 ^ (8 * size - 1) := by
  unfold encodedLength
  by_cases zero : number = 0
  · rw [if_pos zero, zero]
    exact iff_of_true (Nat.zero_le size) (Nat.two_pow_pos _)
  · rw [if_neg zero, ← Nat.log2_lt (Int.natAbs_ne_zero.mpr zero)]
    omega

/-- A number is decoded from an element that is not too long and, on demand, in
its shortest form. -/
theorem decode_eq_ok_iff {element : Bytes} {requireMinimal : Bool} {maxLength : Nat}
    {number : Int} :
    decode element requireMinimal maxLength = .ok number ↔ element.length ≤ maxLength ∧
      (requireMinimal = true -> isMinimal element = true) ∧ value element = number := by
  unfold decode
  by_cases long : element.length > maxLength
  · simp [long, Nat.not_le_of_lt long]
  · cases requireMinimal <;> cases minimal : isMinimal element <;>
      simp [long, Nat.le_of_not_lt long]

theorem natAbs_lt_of_decode {element : Bytes} {requireMinimal : Bool} {maxLength : Nat}
    {number : Int} (decoded : decode element requireMinimal maxLength = .ok number) :
    number.natAbs < 2 ^ (8 * maxLength - 1) := by
  rcases decode_eq_ok_iff.mp decoded with ⟨short, _, rfl⟩
  refine Nat.lt_of_lt_of_le (natAbs_value_lt element) (Nat.pow_le_pow_right (by decide) ?_)
  omega

/-- A small result stays within its bound. -/
theorem checkResult_of_small {number : Int} {size : Nat}
    (small : number.natAbs < 2 ^ (8 * size - 1)) :
    checkResult (some size) number = .ok number :=
  if_neg (Nat.not_lt_of_le (encodedLength_le_iff.mpr small))

theorem checkResult_eq_ok_iff {resultSize : Option Nat} {number result : Int} :
    checkResult resultSize number = .ok result ↔
      (forall size, resultSize = some size -> encodedLength number ≤ size) ∧ number = result := by
  unfold checkResult
  cases resultSize with
  | none => simp
  | some size =>
      by_cases long : encodedLength number > size
      · simp [long, Nat.not_le_of_lt long]
      · simp [long, Nat.le_of_not_lt long]

/-! ## The last byte of an element -/

private theorem toNat_and_magnitude (byte : UInt8) : (byte &&& 0x7f).toNat = byte.toNat % 128 := by
  rw [UInt8.toNat_and]
  exact Nat.and_two_pow_sub_one_eq_mod _ 7

private theorem and_sign_eq_zero_iff {byte : UInt8} : byte &&& 0x80 = 0 ↔ byte.toNat < 128 :=
  Bytes.and_highBit_eq_zero_iff

private theorem and_magnitude_eq_zero_iff {byte : UInt8} :
    byte &&& 0x7f = 0 ↔ byte.toNat % 128 = 0 := by
  rw [← UInt8.toNat_inj, toNat_and_magnitude, UInt8.toNat_zero]

/-- The sign bit is set in a byte that has it clear. -/
private theorem toNat_or_signBit {byte : UInt8} (clear : byte.toNat < 128) (number : Int) :
    (byte ||| signBit number).toNat = byte.toNat + if number < 0 then 128 else 0 := by
  unfold signBit
  by_cases negative : number < 0
  · rw [if_pos negative, if_pos negative, UInt8.toNat_or, Nat.or_comm, Nat.add_comm]
    exact (Nat.two_pow_add_eq_or_of_lt (i := 7) clear 1).symm
  · rw [if_neg negative, if_neg negative, UInt8.toNat_or]
    exact Nat.or_zero _

private theorem signWeight_succ (length : Nat) : signWeight (length + 1) = 128 * 256 ^ length := by
  have exponent : 8 * (length + 1) - 1 = 7 + 8 * length := by omega
  rw [signWeight_eq, exponent, Nat.pow_add, Nat.pow_mul]

/-- The magnitude of an element takes the lower bits of its last byte, and the
highest bit is the sign. -/
theorem value_concat (front : Bytes) (last : UInt8) :
    value (front ++ [last]) =
      if last.toNat < 128 then ((front.toNatLE + 256 ^ front.length * last.toNat : Nat) : Int)
      else -((front.toNatLE + 256 ^ front.length * (last.toNat - 128) : Nat) : Int) := by
  have low := front.toNatLE_lt
  unfold value
  rw [Bytes.toNatLE_concat, List.length_append, List.length_singleton, signWeight_succ]
  dsimp only
  generalize front.toNatLE = lower at low ⊢
  generalize 256 ^ front.length = weight at low ⊢
  by_cases positive : last.toNat < 128
  · have below : weight * last.toNat ≤ weight * 127 :=
      Nat.mul_le_mul_left weight (Nat.le_of_lt_succ positive)
    rw [if_pos positive, if_pos (by omega)]
  · obtain ⟨magnitude, same⟩ := Nat.exists_eq_add_of_le (Nat.le_of_not_lt positive)
    rw [if_neg positive, same, Nat.add_sub_cancel_left, Nat.mul_add, if_neg (by omega)]
    congr 2
    omega

theorem natAbs_value_concat (front : Bytes) (last : UInt8) :
    (value (front ++ [last])).natAbs = front.toNatLE + 256 ^ front.length * (last.toNat % 128) := by
  have byte := last.toNat_lt
  rw [value_concat]
  by_cases positive : last.toNat < 128
  · rw [if_pos positive, Int.natAbs_natCast, Nat.mod_eq_of_lt positive]
  · have lower : last.toNat % 128 = last.toNat - 128 := by omega
    rw [if_neg positive, Int.natAbs_neg, Int.natAbs_natCast, lower]

/-- Length and number determine an element, unless the number is zero: a sign of
its own makes no difference to it. -/
theorem eq_of_value_eq {element other : Bytes} (sameLength : element.length = other.length)
    (same : value element = value other) (nonzero : value element ≠ 0) : element = other := by
  have raw (bytes : Bytes) (nonzero : value bytes ≠ 0) :
      bytes.toNatLE = (value bytes).natAbs + if value bytes < 0 then signWeight bytes.length
        else 0 := by
    unfold value at nonzero ⊢
    by_cases positive : bytes.toNatLE < signWeight bytes.length
    · rw [if_pos positive, if_neg (Int.not_lt.mpr (Int.natCast_nonneg _))]
      rfl
    · rw [if_neg positive] at nonzero ⊢
      rw [if_pos (by omega)]
      omega
  rw [← Bytes.ofNatLE_toNatLE element, raw element nonzero, same, sameLength,
    ← raw other (same ▸ nonzero), Bytes.ofNatLE_toNatLE]

/-! ## The shortest form -/

/-- A byte less would not hold the number of an element in its shortest form. -/
theorem isMinimal_iff {element : Bytes} :
    isMinimal element = true ↔
      (element ≠ [] -> 2 ^ (8 * (element.length - 1) - 1) ≤ (value element).natAbs) := by
  rcases List.eq_nil_or_concat' element with rfl | ⟨front, last, rfl⟩
  · exact iff_of_true rfl fun nonempty => (nonempty rfl).elim
  rw [imp_iff_right (List.append_ne_nil_of_right_ne_nil _ (List.cons_ne_nil _ _)),
    natAbs_value_concat, List.length_append, List.length_singleton, Nat.add_sub_cancel]
  rcases List.eq_nil_or_concat' front with rfl | ⟨front, previous, rfl⟩
  · have minimal : isMinimal ([] ++ [last]) = (last &&& 0x7f != 0) := rfl
    rw [minimal, bne_iff_ne, ne_eq, and_magnitude_eq_zero_iff]
    change _ ↔ 1 ≤ 0 + 1 * (last.toNat % 128)
    omega
  · have minimal : isMinimal (front ++ [previous] ++ [last]) =
        (last &&& 0x7f != 0 || previous &&& 0x80 != 0) := by
      simp [isMinimal]
    rw [minimal, Bool.or_eq_true, bne_iff_ne, bne_iff_ne, ne_eq, ne_eq, and_magnitude_eq_zero_iff,
      and_sign_eq_zero_iff, ← signWeight_eq, List.length_append, List.length_singleton,
      signWeight_succ, Bytes.toNatLE_concat, Nat.pow_succ]
    have low := Bytes.toNatLE_lt front
    generalize Bytes.toNatLE front = lower at low ⊢
    generalize 256 ^ front.length = weight at low ⊢
    constructor
    · rintro (upper | upper)
      · have some : weight * 256 * 1 ≤ weight * 256 * (last.toNat % 128) :=
          Nat.mul_le_mul_left _ (Nat.one_le_iff_ne_zero.mpr upper)
        omega
      · have some : weight * 128 ≤ weight * previous.toNat :=
          Nat.mul_le_mul_left _ (Nat.le_of_not_lt upper)
        omega
    · intro large
      by_contra neither
      rw [not_or, not_not, not_not] at neither
      have few : weight * previous.toNat ≤ weight * 127 :=
        Nat.mul_le_mul_left _ (Nat.le_of_lt_succ neither.2)
      rw [neither.1, Nat.mul_zero] at large
      omega

/-- An element in its shortest form is as long as its number needs. -/
theorem length_of_isMinimal {element : Bytes} (minimal : isMinimal element = true) :
    element.length = encodedLength (value element) := by
  refine Nat.le_antisymm ?_ (encodedLength_le_iff.mpr (natAbs_value_lt element))
  by_contra longer
  have nonempty : element ≠ [] := by
    rintro rfl
    exact longer (Nat.zero_le _)
  have shorter : encodedLength (value element) ≤ element.length - 1 := by omega
  exact Nat.not_lt_of_le (isMinimal_iff.mp minimal nonempty) (encodedLength_le_iff.mp shorter)

/-- The bytes of a magnitude that is not zero end in a byte that is not zero, in
which or behind which the sign is written. -/
private theorem exists_magnitude {number : Int} (nonzero : number ≠ 0) :
    ∃ (front : Bytes) (last : UInt8), front.toNatLE + 256 ^ front.length * last.toNat =
        number.natAbs ∧
      0 < last.toNat ∧
      encode number =
        if last.toNat < 128 then front ++ [last ||| signBit number]
          else front ++ [last] ++ [signBit number] := by
  rcases Bytes.width_spec (Int.natAbs_ne_zero.mpr nonzero) with ⟨further, width, low, high⟩
  have length := Bytes.length_ofNatLE (Bytes.width number.natAbs) number.natAbs
  have magnitude := Bytes.toNatLE_ofNatLE high
  rw [← width] at magnitude
  unfold encode
  rcases List.eq_nil_or_concat' (Bytes.ofNatLE (Bytes.width number.natAbs) number.natAbs) with
    empty | ⟨front, last, split⟩
  · rw [empty, width] at length
    cases length
  rw [split, List.length_append, List.length_singleton, width, Nat.add_right_cancel_iff] at length
  rw [split, Bytes.toNatLE_concat] at magnitude
  refine ⟨front, last, magnitude, ?_, ?_⟩
  · -- Otherwise the bytes before it would do.
    by_contra zero
    have below := Bytes.toNatLE_lt front
    rw [Nat.eq_zero_of_not_pos zero, Nat.mul_zero, Nat.add_zero] at magnitude
    rw [magnitude, length] at below
    exact Nat.not_lt_of_le low below
  · rw [split]
    simp only [List.getLast?_append, List.getLast?_singleton, Option.some_or, List.dropLast_concat,
      and_sign_eq_zero_iff]

theorem encode_zero : encode 0 = [] := rfl

/-- What is written stands for the number, and in its shortest form. -/
theorem value_encode (number : Int) : value (encode number) = number := by
  by_cases zero : number = 0
  · rw [zero, encode_zero]
    rfl
  rcases exists_magnitude zero with ⟨front, last, magnitude, _, encoded⟩
  rw [encoded]
  by_cases fits : last.toNat < 128
  · rw [if_pos fits, value_concat, toNat_or_signBit fits]
    by_cases negative : number < 0
    · rw [if_pos negative, if_neg (by omega), Nat.add_sub_cancel, magnitude]
      omega
    · rw [if_neg negative, Nat.add_zero, if_pos fits, magnitude]
      omega
  · rw [if_neg fits, value_concat, Bytes.toNatLE_concat, magnitude]
    unfold signBit
    by_cases negative : number < 0
    · rw [if_pos negative]
      change -((number.natAbs + _ * 0 : Nat) : Int) = number
      omega
    · rw [if_neg negative]
      change ((number.natAbs + _ * 0 : Nat) : Int) = number
      omega

theorem isMinimal_encode (number : Int) : isMinimal (encode number) = true := by
  by_cases zero : number = 0
  · rw [zero, encode_zero]
    rfl
  rw [isMinimal_iff, value_encode]
  intro _
  rcases exists_magnitude zero with ⟨front, last, magnitude, positive, encoded⟩
  rw [encoded, ← magnitude]
  by_cases fits : last.toNat < 128
  · rw [if_pos fits, List.length_append, List.length_singleton, Nat.add_sub_cancel]
    calc
      2 ^ (8 * front.length - 1) ≤ 2 ^ (8 * front.length) :=
        Nat.pow_le_pow_right (by decide) (Nat.sub_le _ _)
      _ = 256 ^ front.length := Nat.pow_mul 2 8 _
      _ ≤ 256 ^ front.length * last.toNat := Nat.le_mul_of_pos_right _ positive
      _ ≤ front.toNatLE + 256 ^ front.length * last.toNat := Nat.le_add_left _ _
  · rw [if_neg fits, List.length_append, List.length_singleton, Nat.add_sub_cancel,
      List.length_append, List.length_singleton, ← signWeight_eq, signWeight_succ, Nat.mul_comm]
    have upper : 256 ^ front.length * 128 ≤ 256 ^ front.length * last.toNat :=
      Nat.mul_le_mul_left _ (Nat.le_of_not_lt fits)
    omega

theorem length_encode (number : Int) : (encode number).length = encodedLength number := by
  rw [length_of_isMinimal (isMinimal_encode number), value_encode]

theorem encode_value_eq_iff {element : Bytes} :
    encode (value element) = element ↔ isMinimal element = true := by
  constructor
  · intro same
    rw [← same]
    exact isMinimal_encode _
  · intro minimal
    have sameLength := (length_encode (value element)).trans (length_of_isMinimal minimal).symm
    by_cases zero : value element = 0
    · rw [zero, encode_zero] at sameLength ⊢
      exact (List.eq_nil_of_length_eq_zero sameLength.symm).symm
    · exact eq_of_value_eq sameLength (value_encode _) ((value_encode _).symm ▸ zero)

theorem value_minimize (element : Bytes) : value (minimize element) = value element :=
  value_encode _

theorem minimize_congr {element other : Bytes} (same : value element = value other) :
    minimize element = minimize other :=
  congrArg encode same

theorem length_minimize_le (element : Bytes) : (minimize element).length ≤ element.length := by
  rw [minimize, length_encode]
  exact encodedLength_le_iff.mpr (natAbs_value_lt element)

/-- Numbers have one canonical form.  What is written for a number stands for it,
is recognized as minimal and has the length that is computed without writing it,
which is bounded by the magnitude.  What is recognized as minimal is what is
written for its number.  Other elements are brought into this form, which is no
longer and stands for the same number. -/
theorem encode_canonical :
    (forall number : Int,
      value (encode number) = number ∧ isMinimal (encode number) = true ∧
        encodedLength number = (encode number).length ∧
        forall size : Nat, (encode number).length ≤ size ↔ number.natAbs ≤ 2 ^ (8 * size - 1) - 1) ∧
    forall element : Bytes,
      (isMinimal element = true ↔ encode (value element) = element) ∧
        (minimize element).length ≤ element.length ∧ value (minimize element) = value element ∧
        minimize (minimize element) = minimize element := by
  constructor
  · intro number
    refine ⟨value_encode number, isMinimal_encode number, (length_encode number).symm,
      fun size => ?_⟩
    rw [length_encode, encodedLength_le_iff, Nat.le_sub_one_iff_lt (Nat.two_pow_pos _)]
  · intro element
    exact ⟨encode_value_eq_iff.symm, length_minimize_le element, value_minimize element,
      minimize_congr (value_minimize element)⟩

/-! ## Truth -/

private theorem isTrue_cons (byte : UInt8) {rest : Bytes} (nonempty : rest ≠ []) :
    isTrue (byte :: rest) = (byte != 0 || isTrue rest) := by
  cases rest with
  | nil => exact absurd rfl nonempty
  | cons next rest => rfl

/-- The last byte counts without its sign bit. -/
private theorem isTrue_concat (front : Bytes) (last : UInt8) :
    isTrue (front ++ [last]) = true ↔ front.toNatLE ≠ 0 ∨ last.toNat % 128 ≠ 0 := by
  induction front with
  | nil =>
      have byte := last.toNat_lt
      have single : isTrue ([] ++ [last]) = (last != 0 && last != 0x80) := rfl
      rw [single, Bool.and_eq_true, bne_iff_ne, bne_iff_ne, ne_eq, ne_eq, ← UInt8.toNat_inj,
        ← UInt8.toNat_inj]
      change ¬ last.toNat = 0 ∧ ¬ last.toNat = 128 ↔ 0 ≠ 0 ∨ last.toNat % 128 ≠ 0
      omega
  | cons byte front inductionHypothesis =>
      have nonempty : front ++ [last] ≠ [] :=
        List.append_ne_nil_of_right_ne_nil _ (List.cons_ne_nil _ _)
      have unfolded : Bytes.toNatLE (byte :: front) = byte.toNat + 256 * Bytes.toNatLE front := rfl
      rw [List.cons_append, isTrue_cons byte nonempty, Bool.or_eq_true, inductionHypothesis,
        bne_iff_ne, ne_eq, ← UInt8.toNat_inj, UInt8.toNat_zero, unfolded]
      omega

/-- An element is true exactly when the number that it stands for is not zero. -/
theorem isTrue_iff {element : Bytes} : isTrue element = true ↔ value element ≠ 0 := by
  rcases List.eq_nil_or_concat' element with rfl | ⟨front, last, rfl⟩
  · exact iff_of_false nofun fun nonzero => nonzero rfl
  · have weight : 256 ^ front.length ≠ 0 := Nat.ne_of_gt (Nat.pow_pos (by decide))
    rw [isTrue_concat, ← Int.natAbs_ne_zero, natAbs_value_concat, ne_eq, ne_eq, ne_eq,
      Nat.add_eq_zero_iff, Nat.mul_eq_zero, or_iff_right weight, not_and_or]

/-- Elements for the same number are equally true. -/
theorem isTrue_congr {element other : Bytes} (same : value element = value other) :
    isTrue element = isTrue other := by
  rw [Bool.eq_iff_iff, isTrue_iff, isTrue_iff, same]

/-! ## Elements of a given length -/

/-- The sign moves to the last of the new bytes, and zeros fill up the rest. -/
theorem length_widen {element : Bytes} {size : Nat} (short : element.length ≤ size) :
    (widen element size).length = size := by
  unfold widen
  split
  · cases last : element.getLast? with
    | none => exact List.length_replicate
    | some sign =>
        have nonempty : 0 < element.length := by
          cases element with
          | nil => cases last
          | cons _ _ => exact Nat.succ_pos _
        simp only [List.length_append, List.length_cons, List.length_dropLast,
          List.length_replicate, List.length_nil]
        omega
  · omega

private theorem toNatLE_replicate_zero (count : Nat) :
    Bytes.toNatLE (List.replicate count 0) = 0 := by
  induction count with
  | zero => rfl
  | succ count inductionHypothesis =>
      change 0 + 256 * Bytes.toNatLE (List.replicate count 0) = 0
      rw [inductionHypothesis]

/-- The zeros weigh nothing, and the sign is kept. -/
theorem value_widen (element : Bytes) (size : Nat) :
    value (widen element size) = value element := by
  unfold widen
  by_cases shorter : element.length < size
  case neg => rw [if_neg shorter]
  rw [if_pos shorter]
  rcases List.eq_nil_or_concat' element with rfl | ⟨front, last, rfl⟩
  · change value (List.replicate size 0) = 0
    cases size with
    | zero => rfl
    | succ size =>
        rw [List.replicate_succ', value_concat, toNatLE_replicate_zero]
        rfl
  · have lower := last.toNat_lt
    have magnitude (zeros : Nat) :
        Bytes.toNatLE (front ++ (last &&& 0x7f) :: List.replicate zeros 0) =
        Bytes.toNatLE front + 256 ^ front.length * (last.toNat % 128) := by
      rw [Bytes.toNatLE_append]
      change _ + _ * ((last &&& 0x7f).toNat + 256 * Bytes.toNatLE (List.replicate zeros 0)) = _
      rw [toNatLE_replicate_zero, toNat_and_magnitude]
      rfl
    rw [List.getLast?_concat, List.dropLast_concat]
    dsimp only
    rw [← List.cons_append, ← List.append_assoc, value_concat, value_concat, magnitude,
      Bytes.toNat_and_highBit]
    by_cases positive : last.toNat < 128
    · have sign : last.toNat / 128 * 128 = 0 := by omega
      rw [sign, if_pos (by decide), if_pos positive, Nat.mul_zero, Nat.add_zero,
        Nat.mod_eq_of_lt positive]
    · have sign : last.toNat / 128 * 128 = 128 := by omega
      have rest : last.toNat % 128 = last.toNat - 128 := by omega
      rw [sign, if_neg (by decide), if_neg positive, Nat.sub_self, Nat.mul_zero, Nat.add_zero, rest]

end ScriptNumber
end SpendRules

import Mathlib.Algebra.Group.Nat.Defs
import SpendRules.Codec.Format
import SpendRules.Proofs.Sequencing

namespace SpendRules

/-!
# Byte strings that stand for values

A value can be written in more than one way, because a variable-width integer
can.  A spelling is the relation between a value and the byte strings that
stand for it.  It is stated apart from any cursor, so it can be compared with
what an encoder writes and with what a read accepts.

A read recognizes a spelling when it takes exactly the byte strings that stand
for a value, whatever follows them.  One equivalence says both that nothing
else is accepted and that every spelling is.  Reads are put together by
sequencing, and so are the spellings they recognize; the laws below follow the
constructions of reads one by one.
-/

namespace Bytes

set_option maxRecDepth 4096 in
theorem toNat_and_highBit (byte : UInt8) : (byte &&& 0x80).toNat = byte.toNat / 128 * 128 := by
  -- There are 256 bytes.
  cases byte with
  | ofBitVec byte =>
      cases byte with
      | ofFin byte => revert byte; decide

theorem and_highBit_eq_zero_iff {byte : UInt8} : byte &&& 0x80 = 0 ↔ byte < 0x80 := by
  rw [← UInt8.toNat_inj, toNat_and_highBit, UInt8.lt_iff_toNat_lt]
  change byte.toNat / 128 * 128 = 0 ↔ byte.toNat < 128
  omega

theorem toNatLE_lt (bytes : Bytes) : bytes.toNatLE < 256 ^ bytes.length := by
  induction bytes with
  | nil => exact Nat.zero_lt_one
  | cons byte rest inductionHypothesis =>
      have low : byte.toNat < 256 := byte.toNat_lt
      have unfolded : toNatLE (byte :: rest) = byte.toNat + 256 * toNatLE rest := rfl
      rw [unfolded, List.length_cons, Nat.pow_succ]
      omega

theorem toNatLE_ofNatLE {width value : Nat} (fits : value < 256 ^ width) :
    (ofNatLE width value).toNatLE = value := by
  induction width generalizing value with
  | zero =>
      rw [Nat.pow_zero, Nat.lt_one_iff] at fits
      exact fits.symm
  | succ width inductionHypothesis =>
      have higher : value / 256 < 256 ^ width := by
        rw [Nat.pow_succ] at fits
        omega
      change (UInt8.ofNat value).toNat + 256 * (ofNatLE width (value / 256)).toNatLE = value
      rw [inductionHypothesis higher, UInt8.toNat_ofNat']
      omega

theorem ofNatLE_toNatLE (bytes : Bytes) : ofNatLE bytes.length bytes.toNatLE = bytes := by
  induction bytes with
  | nil => rfl
  | cons byte rest inductionHypothesis =>
      have low : byte.toNat < 256 := byte.toNat_lt
      have unfolded : toNatLE (byte :: rest) = byte.toNat + 256 * toNatLE rest := rfl
      have head : UInt8.ofNat (byte.toNat + 256 * toNatLE rest) = byte := by
        apply UInt8.toNat_inj.mp
        rw [UInt8.toNat_ofNat']
        omega
      have tail : (byte.toNat + 256 * toNatLE rest) / 256 = toNatLE rest := by omega
      rw [unfolded, List.length_cons, ofNatLE, head, tail, inductionHypothesis]

theorem toNatLE_append (front rest : Bytes) :
    toNatLE (front ++ rest) = front.toNatLE + 256 ^ front.length * rest.toNatLE := by
  induction front with
  | nil =>
      rw [List.nil_append, List.length_nil, Nat.pow_zero, Nat.one_mul]
      exact (Nat.zero_add _).symm
  | cons byte front inductionHypothesis =>
      change byte.toNat + 256 * toNatLE (front ++ rest) = byte.toNat + 256 * toNatLE front + _
      rw [inductionHypothesis, List.length_cons, Nat.pow_succ', Nat.mul_add, Nat.mul_assoc,
        Nat.add_assoc]

theorem toNatLE_concat (front : Bytes) (last : UInt8) :
    toNatLE (front ++ [last]) = front.toNatLE + 256 ^ front.length * last.toNat :=
  toNatLE_append front [last]

theorem hasAtLeast_iff {count : Nat} {bytes : Bytes} :
    bytes.hasAtLeast count = true ↔ count ≤ bytes.length := by
  rw [hasAtLeast, beq_iff_eq, List.length_take]
  omega

/-! In both orders, bytes and the numbers that they hold determine each other. -/

theorem toNat_lt (order : ByteOrder) (bytes : Bytes) : bytes.toNat order < 256 ^ bytes.length := by
  cases order with
  | leastFirst => exact toNatLE_lt bytes
  | mostFirst => exact List.length_reverse ▸ toNatLE_lt bytes.reverse

theorem toNat_ofNat {order : ByteOrder} {width value : Nat} (fits : value < 256 ^ width) :
    (ofNat order width value).toNat order = value := by
  cases order with
  | leastFirst => exact toNatLE_ofNatLE fits
  | mostFirst => rw [ofNat, toNat, List.reverse_reverse, toNatLE_ofNatLE fits]

theorem ofNat_toNat (order : ByteOrder) (bytes : Bytes) :
    ofNat order bytes.length (bytes.toNat order) = bytes := by
  cases order with
  | leastFirst => exact ofNatLE_toNatLE bytes
  | mostFirst => rw [ofNat, toNat, ← List.length_reverse, ofNatLE_toNatLE, List.reverse_reverse]

/-- A number is below what its bytes can hold, and not below what one byte less
can hold. -/
theorem width_spec {value : Nat} (nonzero : value ≠ 0) :
    ∃ further, width value = further + 1 ∧ 256 ^ further ≤ value ∧ value < 256 ^ (further + 1) := by
  refine ⟨Nat.log2 value / 8, if_neg nonzero, ?_, ?_⟩
  · calc
      256 ^ (Nat.log2 value / 8) = 2 ^ (8 * (Nat.log2 value / 8)) := (Nat.pow_mul 2 8 _).symm
      _ ≤ 2 ^ Nat.log2 value := Nat.pow_le_pow_right (by decide) (by omega)
      _ ≤ value := Nat.log2_self_le nonzero
  · calc
      value < 2 ^ (Nat.log2 value + 1) := Nat.lt_log2_self
      _ ≤ 2 ^ (8 * (Nat.log2 value / 8 + 1)) := Nat.pow_le_pow_right (by decide) (by omega)
      _ = 256 ^ (Nat.log2 value / 8 + 1) := Nat.pow_mul 2 8 _

theorem ofNatLE_inj {width value other : Nat} (fits : value < 256 ^ width)
    (otherFits : other < 256 ^ width) (same : ofNatLE width value = ofNatLE width other) :
    value = other := by
  rw [← toNatLE_ofNatLE fits, same, toNatLE_ofNatLE otherFits]

end Bytes

/-- Which byte strings stand for a value. -/
abbrev Spelling (α : Type) := α -> Bytes -> Prop

/-- A byte string does not get longer by being replaced with the other, and
only by staying what it is does it keep its length. -/
structure Bytes.Shortens (canonical taken : Bytes) : Prop where
  length_le : canonical.length ≤ taken.length
  eq_of_length_eq : canonical.length = taken.length -> canonical = taken

namespace Bytes.Shortens

theorem refl (bytes : Bytes) : Shortens bytes bytes :=
  ⟨Nat.le_refl _, fun _ => rfl⟩

theorem of_eq {canonical taken : Bytes} (same : canonical = taken) : Shortens canonical taken :=
  same ▸ refl canonical

/-- Parts are shortened one by one.  When no length is lost over all, none is
lost in either part. -/
theorem append {front rest frontTaken restTaken : Bytes}
    (first : Shortens front frontTaken) (second : Shortens rest restTaken) :
    Shortens (front ++ rest) (frontTaken ++ restTaken) where
  length_le := by
    rw [List.length_append, List.length_append]
    exact Nat.add_le_add first.length_le second.length_le
  eq_of_length_eq := by
    intro same
    rw [List.length_append, List.length_append] at same
    have firstLe := first.length_le
    have secondLe := second.length_le
    rw [first.eq_of_length_eq (by omega), second.eq_of_length_eq (by omega)]

end Bytes.Shortens

namespace Read

variable {α β : Type}

/-- A read takes exactly the byte strings that stand for a value, whatever
follows them, and moves a usable cursor behind them. -/
def Recognizes (read : Read α) (spelling : Spelling α) : Prop :=
  forall position data value after,
    read { position := position, rest := data, valid := true } = .ok value after ↔
      ∃ taken rest, spelling value taken ∧ data = taken ++ rest ∧
        after = { position := position + taken.length, rest := rest, valid := true }

/-- Recognition only depends on which byte strings stand for which value. -/
theorem Recognizes.congr {read : Read α} {spelling other : Spelling α}
    (recognizes : read.Recognizes spelling)
    (same : forall value taken, spelling value taken ↔ other value taken) :
    read.Recognizes other := by
  intro position data value after
  simp only [recognizes position data value after, same]

/-- What a read recognizes ends where the read stops, so of two spellings in
front of the same bytes neither goes on where the other one ends. -/
theorem Recognizes.cancel {read : Read α} {spelling : Spelling α}
    (recognizes : read.Recognizes spelling) {value other : α}
    {front rest otherFront otherRest : Bytes} (spelled : spelling value front)
    (otherSpelled : spelling other otherFront) (same : front ++ rest = otherFront ++ otherRest) :
    value = other ∧ rest = otherRest := by
  have found := (recognizes 0 (front ++ rest) value _).mpr ⟨front, rest, spelled, rfl, rfl⟩
  have otherFound :=
    (recognizes 0 (front ++ rest) other _).mpr ⟨otherFront, otherRest, otherSpelled, same, rfl⟩
  rw [found] at otherFound
  injection otherFound with values cursors
  exact ⟨values, congrArg Cursor.rest cursors⟩

theorem recognizes_pure (value : α) :
    Recognizes (pure value : Read α) (fun found taken => found = value ∧ taken = []) := by
  intro position data found after
  constructor
  · intro equal
    cases equal
    exact ⟨[], data, ⟨rfl, rfl⟩, rfl, rfl⟩
  · rintro ⟨taken, rest, ⟨rfl, rfl⟩, rfl, rfl⟩
    rfl

/-- A read that always fails recognizes a spelling that nothing has. -/
theorem recognizes_throw {spelling : Spelling α} (failure : CodecError)
    (never : forall value taken, ¬ spelling value taken) :
    Recognizes (throw failure : Read α) spelling := by
  intro position data value after
  constructor
  · intro equal
    cases equal
  · rintro ⟨taken, rest, impossible, _⟩
    exact (never value taken impossible).elim

/-- A check before a read takes no bytes. -/
theorem Recognizes.unless {read : Read α} {spelling : Spelling α}
    (recognizes : read.Recognizes spelling) (refused : Prop) [Decidable refused]
    (failure : CodecError) :
    Recognizes (if refused then throw failure else read)
      (fun value taken => ¬ refused ∧ spelling value taken) := by
  by_cases holds : refused
  · rw [if_pos holds]
    exact recognizes_throw failure (fun _ _ spelled => spelled.1 holds)
  · rw [if_neg holds]
    refine recognizes.congr ?_
    intro value taken
    exact (and_iff_right holds).symm

/-- A read followed by another recognizes a spelling for the first followed by
one for the second, which may depend on what the first one found. -/
theorem Recognizes.bind {read : Read α} {next : α -> Read β} {spelling : Spelling α}
    {nextSpelling : α -> Spelling β} (first : read.Recognizes spelling)
    (second : forall value, (next value).Recognizes (nextSpelling value)) :
    Recognizes (read >>= next) (fun found taken =>
      ∃ value front back, spelling value front ∧ nextSpelling value found back ∧
        taken = front ++ back) := by
  intro position data found after
  rw [Sequencing.bind_eq_ok_iff]
  constructor
  · rintro ⟨value, cursor, found, followed⟩
    rcases (first position data value cursor).mp found with ⟨front, middle, spelled, rfl, rfl⟩
    rcases (second value _ middle _ after).mp followed with ⟨back, rest, nextSpelled, rfl, rfl⟩
    refine ⟨front ++ back, rest, ⟨value, front, back, spelled, nextSpelled, rfl⟩, ?_, ?_⟩
    · rw [List.append_assoc]
    · rw [List.length_append, Nat.add_assoc]
  · rintro ⟨taken, rest, ⟨value, front, back, spelled, nextSpelled, rfl⟩, rfl, rfl⟩
    refine ⟨value, _, (first position _ value _).mpr ⟨front, back ++ rest, spelled, ?_, rfl⟩, ?_⟩
    · exact List.append_assoc front back rest
    · apply (second value _ _ found _).mpr
      exact ⟨back, rest, nextSpelled, rfl, by rw [List.length_append, Nat.add_assoc]⟩

theorem Recognizes.map {read : Read α} {spelling : Spelling α} (function : α -> β)
    (recognizes : read.Recognizes spelling) :
    Recognizes (function <$> read) (fun found taken =>
      ∃ value, spelling value taken ∧ found = function value) := by
  have sequenced := recognizes.bind (fun value => recognizes_pure (function value))
  refine @Recognizes.congr _ (function <$> read) _ _ sequenced ?_
  intro found taken
  constructor
  · rintro ⟨value, front, back, spelled, ⟨rfl, rfl⟩, rfl⟩
    exact ⟨value, (List.append_nil front).symm ▸ spelled, rfl⟩
  · rintro ⟨value, spelled, rfl⟩
    exact ⟨value, taken, [], spelled, ⟨rfl, rfl⟩, (List.append_nil taken).symm⟩

/-- A fixed number of bytes stands for itself. -/
theorem recognizes_bytes (count : Nat) :
    (bytes count).Recognizes (fun value taken => taken = value ∧ value.length = count) := by
  intro position data value after
  rw [bytes, if_pos rfl]
  constructor
  · intro equal
    cases split : Bytes.splitExactly? count data with
    | none =>
        simp only [split] at equal
        cases equal
    | some parts =>
        rcases parts with ⟨front, rest⟩
        simp only [split] at equal
        cases equal
        rcases Bytes.splitExactly_eq_some_iff.mp split with ⟨rfl, rfl⟩
        exact ⟨value, rest, ⟨rfl, rfl⟩, rfl, rfl⟩
  · rintro ⟨taken, rest, ⟨rfl, rfl⟩, rfl, rfl⟩
    simp only [Bytes.splitExactly_eq_some_iff.mpr ⟨rfl, rfl⟩]

/-- A number of fixed width is spelled by its bytes in their order. -/
theorem recognizes_nat (order : ByteOrder) (width : Nat) :
    (nat order width).Recognizes
      (fun number taken => number < 256 ^ width ∧ taken = Bytes.ofNat order width number) := by
  refine ((recognizes_bytes width).map (Bytes.toNat order)).congr ?_
  intro number taken
  constructor
  · rintro ⟨bytes, ⟨rfl, rfl⟩, rfl⟩
    exact ⟨Bytes.toNat_lt order taken, (Bytes.ofNat_toNat order taken).symm⟩
  · rintro ⟨small, rfl⟩
    exact ⟨_, ⟨rfl, Bytes.length_ofNat order width number⟩, (Bytes.toNat_ofNat small).symm⟩

/-- A word is spelled as its number, once its type holds exactly the numbers of
its width. -/
theorem recognizes_word (width : Nat) (ofNat : Nat -> α) (toNat : α -> Nat)
    (ofNat_toNat : forall word, ofNat (toNat word) = word)
    (toNat_ofNat : forall number, number < 256 ^ width -> toNat (ofNat number) = number)
    (toNat_lt : forall word, toNat word < 256 ^ width) :
    Recognizes (ofNat <$> nat .leastFirst width)
      (fun word taken => taken = Bytes.ofNatLE width (toNat word)) := by
  refine ((recognizes_nat .leastFirst width).map ofNat).congr ?_
  intro word taken
  constructor
  · rintro ⟨number, ⟨small, rfl⟩, rfl⟩
    rw [toNat_ofNat number small]
    rfl
  · rintro rfl
    exact ⟨toNat word, ⟨toNat_lt word, rfl⟩, (ofNat_toNat word).symm⟩

theorem recognizes_word32 :
    word32.Recognizes (fun word taken => taken = Bytes.ofNatLE 4 word.toNat) :=
  recognizes_word 4 UInt32.ofNat UInt32.toNat (fun _ => UInt32.ofNat_toNat)
    (fun _ small => UInt32.toNat_ofNat_of_lt' small) (fun word => word.toNat_lt)

theorem recognizes_word64 :
    word64.Recognizes (fun word taken => taken = Bytes.ofNatLE 8 word.toNat) :=
  recognizes_word 8 UInt64.ofNat UInt64.toNat (fun _ => UInt64.ofNat_toNat)
    (fun _ small => UInt64.toNat_ofNat_of_lt' small) (fun word => word.toNat_lt)

theorem recognizes_byte : byte.Recognizes (fun value taken => taken = [value]) := by
  have word := recognizes_word 1 UInt8.ofNat UInt8.toNat (fun _ => UInt8.ofNat_toNat)
    (fun _ small => UInt8.toNat_ofNat_of_lt' small) (fun value => value.toNat_lt)
  refine @Recognizes.congr _ byte _ _ word ?_
  intro value taken
  rw [Bytes.ofNatLE, UInt8.ofNat_toNat, Bytes.ofNatLE]

theorem recognizes_hash256 : hash256.Recognizes (fun value taken => taken = value.bytes) := by
  refine ((recognizes_bytes 32).map Hash256.ofBytes).congr ?_
  intro value taken
  constructor
  · rintro ⟨bytes, ⟨rfl, length_eq⟩, rfl⟩
    exact (Hash256.bytes_ofBytes length_eq).symm
  · rintro rfl
    refine ⟨value.bytes, ⟨rfl, value.length_eq⟩, ?_⟩
    cases value with
    | mk bytes length_eq =>
        rw [Hash256.mk.injEq]
        exact (Hash256.bytes_ofBytes length_eq).symm

end Read

end SpendRules

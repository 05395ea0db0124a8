import Mathlib.Data.Nat.Nth
import SpendRules.Machine.SignatureChecks
import SpendRules.Proofs.Codec.Spelling
import SpendRules.Proofs.Sequencing

namespace SpendRules

/-!
# Bitfields over keys

The bits of a byte string are counted from its first byte on, and in each byte from
the least significant bit on.  A bitfield over keys is a byte string of as many
bytes as the keys need, whose bits beyond the keys are clear.  The keys that it
selects are those with a set bit, so the set bits also number them.
-/

/-- A bit of a byte string.  Bits that lie behind its end are clear. -/
def Bytes.testBit (bytes : Bytes) (place : Nat) : Bool :=
  (bytes[place / 8]?.getD 0).toNat.testBit (place % 8)

/-- The bits of a byte string are those of the number that it spells with the least
significant byte first. -/
theorem Bytes.testBit_toNatLE (bytes : Bytes) (place : Nat) :
    bytes.toNatLE.testBit place = bytes.testBit place := by
  induction bytes generalizing place with
  | nil =>
      rw [testBit, List.getElem?_nil]
      exact (Nat.zero_testBit place).trans (Nat.zero_testBit _).symm
  | cons byte rest inductionHypothesis =>
      have unfolded : toNatLE (byte :: rest) = 2 ^ 8 * toNatLE rest + byte.toNat := Nat.add_comm _ _
      rw [unfolded, Nat.testBit_two_pow_mul_add _ byte.toNat_lt, testBit]
      by_cases first : place < 8
      · rw [if_pos first, Nat.div_eq_of_lt first, Nat.mod_eq_of_lt first]
        rfl
      · obtain ⟨further, rfl⟩ := Nat.exists_eq_add_of_le' (Nat.le_of_not_lt first)
        rw [if_neg first, Nat.add_sub_cancel, inductionHypothesis, Nat.add_div_right _ (by decide),
          Nat.add_mod_right]
        rfl

/-! ## Set bits -/

section

variable {set : Nat -> Prop} [DecidablePred set]

/-- Beyond the last one there are no further set bits. -/
theorem count_eq_of_clear {bound further : Nat}
    (clear : forall place, bound ≤ place -> ¬ set place) :
    Nat.count set (bound + further) = Nat.count set bound := by
  induction further with
  | zero => rfl
  | succ further inductionHypothesis =>
      rw [← Nat.add_assoc, Nat.count_succ, if_neg (clear _ (Nat.le_add_right _ _)), Nat.add_zero,
        inductionHypothesis]

/-- The set bits are numbered from the lowest one on. -/
theorem exists_nth_of_lt_count {bound index : Nat} (counted : index < Nat.count set bound) :
    Nat.nth set index < bound ∧ set (Nat.nth set index) ∧
      Nat.count set (Nat.nth set index) = index := by
  induction bound with
  | zero => exact absurd counted (Nat.not_lt_zero _)
  | succ bound inductionHypothesis =>
      by_cases earlier : index < Nat.count set bound
      · rcases inductionHypothesis earlier with ⟨below, rest⟩
        exact ⟨Nat.lt_succ_of_lt below, rest⟩
      · rw [Nat.count_succ] at counted
        by_cases last : set bound
        · rw [if_pos last] at counted
          obtain rfl : index = Nat.count set bound := by omega
          rw [Nat.nth_count last]
          exact ⟨Nat.lt_succ_self bound, last, rfl⟩
        · rw [if_neg last] at counted
          exact absurd counted earlier

end

namespace Interpreter

variable {bits : Nat} {keys : List Bytes}

/-- A bitfield has as many bytes as its keys need, and no bit beyond them. -/
theorem bitfieldOf_eq_ok_iff {element : Bytes} {keyCount : Nat} :
    bitfieldOf element keyCount = .ok bits ↔
      keyCount ≤ 32 ∧ element.length = (keyCount + 7) / 8 ∧
        (forall place, keyCount ≤ place -> element.testBit place = false) ∧
        element.toNatLE = bits := by
  have inRange : element.toNatLE >>> keyCount = 0 ↔
      forall place, keyCount ≤ place -> element.testBit place = false := by
    constructor
    · intro clear place beyond
      rw [← Bytes.testBit_toNatLE, ← Nat.add_sub_cancel' beyond, ← Nat.testBit_shiftRight, clear,
        Nat.zero_testBit]
    · intro clear
      refine Nat.eq_of_testBit_eq fun place => ?_
      rw [Nat.testBit_shiftRight, Bytes.testBit_toNatLE, clear _ (Nat.le_add_right _ _),
        Nat.zero_testBit]
  unfold bitfieldOf
  rw [Sequencing.refuse_eq_ok_iff, Sequencing.refuse_eq_ok_iff, Except.ok.injEq, not_or, not_lt,
    not_not, not_not, inRange, and_assoc]

/-! ## Selected keys -/

theorem selectedKeys_append_singleton (key : Bytes) :
    selectedKeys bits (keys ++ [key]) =
      selectedKeys bits keys ++ if bits.testBit keys.length = true then [key] else [] := by
  unfold selectedKeys
  rw [List.zipIdx_append, List.filter_append, List.map_append]
  congr 1
  change List.map _ (List.filter _ [(key, 0 + keys.length)]) = _
  rw [Nat.zero_add, List.filter_singleton]
  cases bits.testBit keys.length with
  | true => rfl
  | false => rfl

theorem length_selectedKeys :
    (selectedKeys bits keys).length =
      Nat.count (fun place => bits.testBit place = true) keys.length := by
  induction keys using List.reverseRecOn with
  | nil => rfl
  | append_singleton keys key inductionHypothesis =>
      rw [selectedKeys_append_singleton, List.length_append, List.length_append,
        List.length_singleton, Nat.count_succ, inductionHypothesis]
      split
      · rfl
      · rfl

/-- As many keys are selected before a selected key as there are set bits before
its own. -/
theorem getElem?_selectedKeys {place : Nat} (within : place < keys.length)
    (selected : bits.testBit place = true) :
    (selectedKeys bits keys)[Nat.count (fun place => bits.testBit place = true) place]? =
      keys[place]? := by
  induction keys using List.reverseRecOn with
  | nil => exact absurd within (Nat.not_lt_zero _)
  | append_singleton keys key inductionHypothesis =>
      rw [selectedKeys_append_singleton]
      rw [List.length_append, List.length_singleton] at within
      by_cases last : place = keys.length
      · subst last
        rw [if_pos selected, ← length_selectedKeys, List.getElem?_concat_length,
          List.getElem?_concat_length]
      · have earlier : place < keys.length := by omega
        have found := inductionHypothesis earlier
        rw [List.getElem?_append_left earlier, ← found, List.getElem?_append_left]
        rw [List.getElem?_eq_getElem earlier] at found
        exact (List.getElem?_eq_some_iff.mp found).1

end Interpreter
end SpendRules

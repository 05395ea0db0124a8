import SpendRules.Proofs.Machine.Bitfield
import SpendRules.Proofs.Machine.Positions
import SpendRules.Proofs.Machine.Progress
import SpendRules.Proofs.Machine.ValidSignatures

namespace SpendRules
namespace Interpreter

/-!
# Selecting keys for signatures

In the newer way of a multiple signature, the set bits of a bitfield number the
keys that have signed, counted from the bottom.  Signatures are counted from the
bottom too, and each one has to be valid for the key with its number.

Like the older way, it can leave keys and signatures on the stack.  The bits are
then looked for one after another in a word of 32 bits.  There are as many set bits
as signatures, and none beyond the keys, so the search for the bit of a signature
ends within the word and at a key.
-/

variable {vm : Interpreter} {code : Script} {signatures keys : List Bytes} {machine : Machine}

/-- The signature is one of the newer scheme, in a form that is admitted like that
of the key, and valid. -/
structure Approves (vm : Interpreter) (code : Script) (signature key : Bytes) : Prop where
  form : Signature.checkTransactionSchnorr signature vm.rules = .ok ()
  keyForm : Signature.checkKey key vm.rules = .ok ()
  valid : vm.IsValid code signature key

/-- The bitfield is one over the keys and selects one key for each signature, which
is valid for it. -/
structure PairsExactly (vm : Interpreter) (code : Script) (bitfield : Bytes)
    (signatures keys : List Bytes) : Prop where
  fewKeys : keys.length ≤ 32
  size : bitfield.length = (keys.length + 7) / 8
  range : forall place, keys.length ≤ place -> bitfield.testBit place = false
  count : Nat.count (fun place => bitfield.testBit place = true) (8 * bitfield.length) =
    signatures.length
  /-- A signature and its key have the same number from the bottom, the key among those with
  set bits. -/
  pairs : forall index, index < signatures.length ->
    ∃ signature key, signatures.reverse[index]? = some signature ∧
    keys.reverse[Nat.nth (fun place => bitfield.testBit place = true) index]? = some key ∧
      vm.Approves code signature key

/-! ## The demand for valid signatures -/

private theorem exists_demandAll_iff {pairs : List (Bytes × Bytes)} :
    (∃ after, vm.demandAll code pairs machine = .ok () after) ↔
      forall pair, pair ∈ pairs -> vm.Approves code pair.1 pair.2 := by
  induction pairs generalizing machine with
  | nil => exact ⟨fun _ => nofun, fun _ => ⟨machine, rfl⟩⟩
  | cons pair pairs inductionHypothesis =>
      rw [List.forall_mem_cons]
      simp only [demandAll, Sequencing.throw_bind]
      constructor
      · rintro ⟨after, demanded⟩
        rcases Step.ofExcept_bind_eq_ok_iff.mp demanded with ⟨_, form, demanded⟩
        rcases Step.ofExcept_bind_eq_ok_iff.mp demanded with ⟨_, keyForm, demanded⟩
        rcases Sequencing.bind_eq_ok_iff.mp demanded with ⟨valid, asked, checked, demanded⟩
        rcases Sequencing.unless_eq_ok_iff.mp demanded with ⟨accepted, demanded⟩
        rcases Sequencing.bind_eq_ok_iff.mp demanded with ⟨_, counted, _, demanded⟩
        have isValid : vm.IsValid code pair.1 pair.2 :=
          (isValid_iff checked).mpr (by simpa using accepted)
        exact ⟨⟨form, keyForm, isValid⟩, inductionHypothesis.mp ⟨after, demanded⟩⟩
      · rintro ⟨approves, rest⟩
        rcases approves.valid.checkSignature machine with ⟨asked, checked⟩
        rcases inductionHypothesis.mpr rest with ⟨after, demanded⟩
        refine ⟨after, Step.ofExcept_bind_eq_ok_iff.mpr ⟨(), approves.form, ?_⟩⟩
        refine Step.ofExcept_bind_eq_ok_iff.mpr ⟨(), approves.keyForm, ?_⟩
        refine Sequencing.bind_eq_ok_iff.mpr
          ⟨true, asked, checked, Sequencing.unless_eq_ok_iff.mpr ⟨by decide, ?_⟩⟩
        exact Sequencing.bind_eq_ok_iff.mpr ⟨(), _, countSigChecks_eq_ok_iff.mpr rfl, demanded⟩

/-- The selected keys in their order are those whose bits are set. -/
private theorem selectedKeys_getElem? {bits index : Nat}
    (within : index < (selectedKeys bits keys).length) :
    (selectedKeys bits keys)[index]? =
      keys[Nat.nth (fun place => bits.testBit place = true) index]? := by
  rw [length_selectedKeys] at within
  rcases exists_nth_of_lt_count within with ⟨below, set, number⟩
  have found := getElem?_selectedKeys below set
  rwa [number] at found

private theorem checkMultiSigBySelection_eq_ok_iff {bitfield : Bytes} {valid : Bool}
    {after : Machine} :
    vm.checkMultiSigBySelection code bitfield signatures keys machine = .ok valid after ↔
      ∃ bits, bitfieldOf bitfield keys.length = .ok bits ∧
        (selectedKeys bits keys.reverse).length = signatures.length ∧
        vm.demandAll code (signatures.reverse.zip (selectedKeys bits keys.reverse)) machine =
            .ok () after ∧
          true = valid := by
  simp only [checkMultiSigBySelection, Sequencing.throw_bind]
  rw [Step.ofExcept_bind_eq_ok_iff]
  refine exists_congr fun bits => and_congr_right fun _ => ?_
  rw [Sequencing.unless_eq_ok_iff, not_not, Sequencing.bind_eq_ok_iff]
  refine and_congr_right fun _ => ?_
  constructor
  · rintro ⟨_, middle, demanded, returned⟩
    rcases Sequencing.pure_eq_ok_iff.mp returned with ⟨rfl, rfl⟩
    exact ⟨demanded, rfl⟩
  · rintro ⟨demanded, rfl⟩
    exact ⟨(), after, demanded, rfl⟩

/-- All pairs of signatures and selected keys are approved when they are so number
by number. -/
private theorem forall_zip_selectedKeys_iff {bits : Nat}
    (sizes : (selectedKeys bits keys.reverse).length = signatures.length) :
    (forall pair, pair ∈ signatures.reverse.zip (selectedKeys bits keys.reverse) ->
        vm.Approves code pair.1 pair.2) ↔
      forall index, index < signatures.length ->
        ∃ signature key, signatures.reverse[index]? = some signature ∧
        keys.reverse[Nat.nth (fun place => bits.testBit place = true) index]? = some key ∧
          vm.Approves code signature key := by
  constructor
  · intro approves index within
    have signed : index < signatures.reverse.length := by rwa [List.length_reverse]
    have selected : index < (selectedKeys bits keys.reverse).length := by rwa [sizes]
    have foundSignature := List.getElem?_eq_getElem signed
    have foundKey := List.getElem?_eq_getElem selected
    have member : (signatures.reverse[index], (selectedKeys bits keys.reverse)[index]) ∈
        signatures.reverse.zip (selectedKeys bits keys.reverse) :=
      List.mem_of_getElem? (List.getElem?_zip_eq_some.mpr ⟨foundSignature, foundKey⟩)
    exact ⟨_, _, foundSignature, (selectedKeys_getElem? selected).symm.trans foundKey,
      approves _ member⟩
  · intro approves pair member
    rcases List.mem_iff_getElem?.mp member with ⟨index, found⟩
    rcases List.getElem?_zip_eq_some.mp found with ⟨foundSignature, foundKey⟩
    have selected := (List.getElem?_eq_some_iff.mp foundKey).1
    rcases approves index (sizes ▸ selected) with ⟨signature, key, sameSignature, sameKey, approved⟩
    rw [selectedKeys_getElem? selected, sameKey] at foundKey
    rw [foundSignature] at sameSignature
    rwa [Option.some.inj sameSignature, ← Option.some.inj foundKey]

private theorem exists_checkMultiSigBySelection_iff {bitfield : Bytes} :
    (∃ after, vm.checkMultiSigBySelection code bitfield signatures keys machine = .ok true after) ↔
      vm.PairsExactly code bitfield signatures keys := by
  have bits : (fun place => bitfield.toNatLE.testBit place = true) =
      fun place => bitfield.testBit place = true := by
    funext place
    rw [Bytes.testBit_toNatLE]
  -- The bits beyond the keys are clear, so it does not matter up to where they are counted.
  have counts (size : bitfield.length = (keys.length + 7) / 8)
      (range : forall place, keys.length ≤ place -> bitfield.testBit place = false) :
      Nat.count (fun place => bitfield.testBit place = true) (8 * bitfield.length) =
        (selectedKeys bitfield.toNatLE keys.reverse).length := by
    have further : 8 * bitfield.length =
        keys.length + (8 * bitfield.length - keys.length) := by omega
    rw [further, count_eq_of_clear fun place beyond => by simp [range place beyond],
      length_selectedKeys, List.length_reverse]
    simp only [Bytes.testBit_toNatLE]
  constructor
  · rintro ⟨after, checked⟩
    rcases checkMultiSigBySelection_eq_ok_iff.mp checked with ⟨_, decoded, sizes, demanded, _⟩
    rcases bitfieldOf_eq_ok_iff.mp decoded with ⟨fewKeys, size, range, rfl⟩
    have pairs := (forall_zip_selectedKeys_iff sizes).mp (exists_demandAll_iff.mp ⟨after, demanded⟩)
    rw [bits] at pairs
    exact ⟨fewKeys, size, range, (counts size range).trans sizes, pairs⟩
  · intro paired
    have sizes := (counts paired.size paired.range).symm.trans paired.count
    have pairs := paired.pairs
    rw [← bits] at pairs
    rcases exists_demandAll_iff.mpr ((forall_zip_selectedKeys_iff sizes).mpr pairs) with
      ⟨after, demanded⟩
    have decoded := bitfieldOf_eq_ok_iff.mpr ⟨paired.fewKeys, paired.size, paired.range, rfl⟩
    exact ⟨after, checkMultiSigBySelection_eq_ok_iff.mpr ⟨_, decoded, sizes, demanded, rfl⟩⟩

/-! ## The search for set bits -/

/-- The first set bit of a word from a place on.  The word is never shifted by its
width or more. -/
def nextBit? (field : UInt32) (place : Nat) : Option Nat :=
  if place < 32 then
    if field >>> place.toUInt32 &&& 1 = 0 then nextBit? field (place + 1) else some place
  else none
termination_by 32 - place

/-- The number of set bits of a word. -/
def countBits (field : UInt32) : Nat :=
  Nat.count (fun place => field.toNat.testBit place = true) 32

private theorem shifted_eq_zero_iff (field : UInt32) {place : Nat} (within : place < 32) :
    field >>> place.toUInt32 &&& 1 = 0 ↔ ¬ field.toNat.testBit place = true := by
  have places : place.toUInt32.toNat % 32 = place := by
    rw [Nat.toUInt32, UInt32.toNat_ofNat']
    omega
  rw [← UInt32.toNat_inj, UInt32.toNat_and, UInt32.toNat_shiftRight, places, Nat.testBit,
    bne_iff_ne, not_not, Nat.and_comm]
  rfl

/-- While set bits are left, the search ends at the first one. -/
private theorem nextBit?_of_lt_count {field : UInt32} {place : Nat}
    (left : Nat.count (fun place => field.toNat.testBit place = true) place < countBits field) :
    ∃ next, nextBit? field place = some next ∧ field.toNat.testBit next = true ∧
      Nat.count (fun place => field.toNat.testBit place = true) next =
        Nat.count (fun place => field.toNat.testBit place = true) place := by
  fun_induction nextBit? field place with
  | case1 place within clear inductionHypothesis =>
      have clear := (shifted_eq_zero_iff field within).mp clear
      have same : Nat.count (fun place => field.toNat.testBit place = true) (place + 1) =
          Nat.count (fun place => field.toNat.testBit place = true) place := by
        rw [Nat.count_succ, if_neg clear, Nat.add_zero]
      rw [← same] at left ⊢
      exact inductionHypothesis left
  | case2 place within set =>
      exact ⟨place, rfl, not_not.mp (mt (shifted_eq_zero_iff field within).mpr set), rfl⟩
  | case3 place outside =>
      exact absurd (Nat.count_monotone _ (Nat.le_of_not_lt outside)) (Nat.not_le_of_lt left)

/-! ## Keys and signatures on the stack -/

/-- Demand that what is left of the signatures is valid for the keys of the next set
bits.  Both are counted up from their bottom on the stack.  A search that ends
beyond the keys comes to nothing. -/
def demandInPlace (vm : Interpreter) (code : Script) (field : UInt32)
    (keyCount bottomKey bottomSignature : Nat) :
    Nat -> Nat -> Nat -> PartialStep Unit
  | 0, _, _ => pure ()
  | left + 1, index, place => do
    let place <- (nextBit? field place).getM
    if place ≥ keyCount then failure
    else
      let signature <- PartialStep.aboveDepth bottomSignature index
      let key <- PartialStep.aboveDepth bottomKey place
      liftM (Step.ofExcept (Signature.checkTransactionSchnorr signature vm.rules))
      liftM (Step.ofExcept (Signature.checkKey key vm.rules))
      let valid <- liftM (vm.checkSignature signature key code)
      if !valid then liftM (throw .sigNullFail : Step Unit)
      else
        liftM (vm.countSigChecks 1)
        demandInPlace vm code field keyCount bottomKey bottomSignature left (index + 1) (place + 1)

/-- Check a multiple signature in the newer way, with keys and signatures from a
depth of the stack on. -/
def checkSelectionInPlace (vm : Interpreter) (code : Script) (bitfield : Bytes)
    (keyCount signatureCount topKey topSignature : Nat) : PartialStep Bool := do
  let bits <- liftM (Step.ofExcept (bitfieldOf bitfield keyCount))
  let field := bits.toUInt32
  if countBits field ≠ signatureCount then liftM (throw .invalidBitCount : Step Bool)
  else
    let bottomKey <- (topKey + keyCount).ppred.getM
    let bottomSignature <- (topSignature + signatureCount).ppred.getM
    vm.demandInPlace code field keyCount bottomKey bottomSignature signatureCount 0 0
    return true

/-- The search from behind the bits that were found before ends at the key with the
next number. -/
private theorem exists_nextBit? {field : UInt32} {place index : Nat}
    (range : forall place, keys.length ≤ place -> field.toNat.testBit place = false)
    (counted : Nat.count (fun place => field.toNat.testBit place = true) place = index)
    (unfinished : index < countBits field) :
    ∃ next, nextBit? field place = some next ∧ next < keys.length ∧
      Nat.count (fun place => field.toNat.testBit place = true) (next + 1) = index + 1 ∧
        keys.reverse[next]? = (selectedKeys field.toNat keys.reverse)[index]? := by
  rcases nextBit?_of_lt_count (counted ▸ unfinished) with ⟨next, found, set, same⟩
  rw [counted] at same
  have within : next < keys.length := by
    by_contra beyond
    rw [range next (Nat.le_of_not_lt beyond)] at set
    exact Bool.false_ne_true set
  refine ⟨next, found, within, ?_, ?_⟩
  · rw [Nat.count_succ, if_pos set, same]
  · rw [← getElem?_selectedKeys (by rwa [List.length_reverse]) set, same]

private theorem run_demandInPlace {field : UInt32} {topKey topSignature left index place : Nat}
    (range : forall place, keys.length ≤ place -> field.toNat.testBit place = false)
    (sizes : (selectedKeys field.toNat keys.reverse).length = signatures.length)
    (bitCount : countBits field = signatures.length) (holdsKeys : machine.Holds topKey keys)
    (holdsSignatures : machine.Holds topSignature signatures)
    (counted : Nat.count (fun place => field.toNat.testBit place = true) place = index)
    (remaining : index + left = signatures.length) :
    (vm.demandInPlace code field keys.length (topKey + keys.length - 1)
      (topSignature + signatures.length - 1)
        left index place).run machine =
      (some <$> vm.demandAll code
        ((signatures.reverse.zip (selectedKeys field.toNat keys.reverse)).drop index))
        machine := by
  induction left generalizing index place machine with
  | zero =>
      rw [List.drop_eq_nil_of_le]
      · rfl
      · rw [List.length_zip, List.length_reverse, sizes]
        omega
  | succ left inductionHypothesis =>
      have signed : index < signatures.reverse.length := by
        rw [List.length_reverse]
        omega
      have selected : index < (selectedKeys field.toNat keys.reverse).length := by omega
      rcases exists_nextBit? range counted (by omega) with ⟨next, found, within, counted, foundKey⟩
      have foundSignature := List.getElem?_eq_getElem signed
      rw [List.getElem?_eq_getElem selected] at foundKey
      have first : (signatures.reverse.zip (selectedKeys field.toNat keys.reverse)).drop index =
          (signatures.reverse[index], (selectedKeys field.toNat keys.reverse)[index]) ::
            (signatures.reverse.zip (selectedKeys field.toNat keys.reverse)).drop (index + 1) := by
        rw [List.drop_eq_getElem_cons (by rw [List.length_zip]; omega), List.getElem_zip]
      rw [first, demandInPlace, PartialStep.run_bind_getM found, if_neg (Nat.not_le_of_lt within),
        PartialStep.run_bind_aboveDepth holdsSignatures foundSignature,
        PartialStep.run_bind_aboveDepth holdsKeys foundKey]
      simp only [demandAll, Sequencing.throw_bind, PartialStep.run_bind_liftM, map_bind]
      refine Step.ofExcept_bind_congr fun _ => Step.ofExcept_bind_congr fun _ => ?_
      refine Sequencing.bind_congr fun valid asked checked => ?_
      cases valid with
      | false => rfl
      | true =>
          simp only [Bool.not_true, Bool.false_eq_true, if_false,
            PartialStep.run_bind_liftM, map_bind]
          refine Sequencing.bind_congr fun _ charged charges => ?_
          have stack : charged.stack = machine.stack := by
            rw [← countSigChecks_eq_ok_iff.mp charges]
            exact (stack_of_checkSignature checked : asked.stack = machine.stack)
          exact inductionHypothesis (holdsKeys.of_stack_eq stack)
            (holdsSignatures.of_stack_eq stack) counted
            (by omega)

/-- A bitfield over at most 32 keys fits a word. -/
private theorem exists_word_of_bitfieldOf {bitfield : Bytes} {bits : Nat}
    (decoded : bitfieldOf bitfield keys.length = .ok bits) :
    ∃ field : UInt32, field.toNat = bits ∧
      (forall place, keys.length ≤ place -> field.toNat.testBit place = false) ∧
      countBits field = (selectedKeys field.toNat keys.reverse).length := by
  rcases bitfieldOf_eq_ok_iff.mp decoded with ⟨fewKeys, size, range, rfl⟩
  have word : bitfield.toNatLE.toUInt32.toNat = bitfield.toNatLE := by
    rw [Nat.toUInt32, UInt32.toNat_ofNat', Nat.mod_eq_of_lt]
    calc
      bitfield.toNatLE < 256 ^ bitfield.length := bitfield.toNatLE_lt
      _ ≤ 256 ^ 4 := Nat.pow_le_pow_right (by decide) (by omega)
      _ = 2 ^ 32 := by decide
  refine ⟨bitfield.toNatLE.toUInt32, word, ?_, ?_⟩
  · intro place beyond
    rw [word, Bytes.testBit_toNatLE, range place beyond]
  · have all : 32 = keys.length + (32 - keys.length) := by omega
    rw [countBits, all, word, count_eq_of_clear, length_selectedKeys, List.length_reverse]
    intro place beyond
    rw [Bytes.testBit_toNatLE, range place beyond]
    exact Bool.false_ne_true

private theorem run_checkSelectionInPlace {bitfield : Bytes} {topKey topSignature : Nat}
    (holdsKeys : machine.Holds topKey keys)
    (holdsSignatures : machine.Holds topSignature signatures) :
    (vm.checkSelectionInPlace code bitfield keys.length signatures.length topKey topSignature).run
      machine =
      (some <$> vm.checkMultiSigBySelection code bitfield signatures keys) machine := by
  simp only [checkSelectionInPlace, checkMultiSigBySelection, Sequencing.throw_bind,
    PartialStep.run_bind_liftM, map_bind]
  cases decoded : bitfieldOf bitfield keys.length with
  | error failure => rfl
  | ok bits =>
      rcases exists_word_of_bitfieldOf decoded with ⟨field, rfl, range, bitCount⟩
      have word : field.toNat.toUInt32 = field := UInt32.ofNat_toNat
      have bottomKey : (topKey + keys.length).ppred = some (topKey + keys.length - 1) := by
        have pos := holdsKeys.pos
        rw [Nat.ppred_eq_some]
        omega
      have bottomSignature :
          (topSignature + signatures.length).ppred =
            some (topSignature + signatures.length - 1) := by
        have pos := holdsSignatures.pos
        rw [Nat.ppred_eq_some]
        omega
      simp only [Step.ofExcept, pure_bind, word, bitCount]
      by_cases sizes : (selectedKeys field.toNat keys.reverse).length = signatures.length
      · rw [if_neg (not_not.mpr sizes), if_neg (not_not.mpr sizes),
          PartialStep.run_bind_getM bottomKey, PartialStep.run_bind_getM bottomSignature]
        exact PartialStep.run_bind_eq
          (run_demandInPlace range sizes (bitCount.trans sizes) holdsKeys holdsSignatures
            (Nat.count_zero _)
            (Nat.zero_add _)) fun _ _ _ => rfl
      · rw [if_pos sizes, if_pos sizes]
        rfl

/-- The newer way of a multiple signature never ends with false.  It succeeds
exactly when the bitfield is one over the keys, with as many set bits as there are
signatures, and every signature is valid for the key of its set bit.

Keys and signatures of an operation may be left on the stack below their counts.
No position then leaves the stack, the word is never shifted too far, and the
search for set bits never ends beyond the keys. -/
theorem checkMultiSigBySelection_pairsExactly (vm : Interpreter) (code : Script) (bitfield : Bytes)
    (signatures keys : List Bytes) (machine : Machine) :
    (forall after, vm.checkMultiSigBySelection code bitfield signatures keys machine ≠
      .ok false after) ∧
    ((∃ after, vm.checkMultiSigBySelection code bitfield signatures keys machine = .ok true after) ↔
      vm.PairsExactly code bitfield signatures keys) ∧
    forall keyCount sigCount rest,
        machine.stack = keyCount :: (keys ++ sigCount :: (signatures ++ rest)) ->
      (vm.checkSelectionInPlace code bitfield keys.length signatures.length 2 (keys.length + 3)).run
        machine =
        (some <$> vm.checkMultiSigBySelection code bitfield signatures keys) machine := by
  refine ⟨fun after checked => ?_, exists_checkMultiSigBySelection_iff, ?_⟩
  · rcases checkMultiSigBySelection_eq_ok_iff.mp checked with ⟨_, _, _, _, impossible⟩
    cases impossible
  · intro keyCount sigCount rest stack
    rcases Machine.Holds.of_stack stack with ⟨holdsKeys, holdsSignatures⟩
    exact run_checkSelectionInPlace holdsKeys holdsSignatures

/-- A key of the length of signatures of the newer scheme. -/
private def wideKey (byte : UInt8) : Bytes :=
  List.replicate 64 byte

/-- Keys from the top. -/
private def wideKeys : List Bytes :=
  [wideKey 3, wideKey 2, wideKey 1]

/-- Signatures of the first and of the third key. -/
private def outerSignatures : List Bytes :=
  [wideKey 3 ++ [0], wideKey 1 ++ [0]]

private def outerTwoMachine : Machine where
  script := { bytes := [0xae] }
  stack := [3] :: (wideKeys ++ [2] :: (outerSignatures ++ [[0x05]]))

/-- The bit of the key in the middle is clear. -/
theorem checkMultiSigBySelection_outerTwo :
    ∃ after, mirroringInterpreter.checkMultiSigBySelection outerTwoMachine.script [0x05]
        outerSignatures wideKeys outerTwoMachine = .ok true after ∧
      mirroringInterpreter.PairsExactly outerTwoMachine.script [0x05] outerSignatures wideKeys ∧
      (mirroringInterpreter.checkSelectionInPlace outerTwoMachine.script [0x05] 3 2 2 6).run
        outerTwoMachine = .ok (some true) after := by
  obtain ⟨after, checked⟩ : ∃ after,
    mirroringInterpreter.checkMultiSigBySelection outerTwoMachine.script [0x05]
      outerSignatures wideKeys outerTwoMachine = .ok true after := ⟨_, rfl⟩
  rcases checkMultiSigBySelection_pairsExactly mirroringInterpreter outerTwoMachine.script [0x05]
    outerSignatures wideKeys outerTwoMachine with ⟨_, pairs, inPlace⟩
  refine ⟨after, checked, pairs.mp ⟨after, checked⟩, (inPlace [3] [2] [[0x05]] rfl).trans ?_⟩
  rw [map_eq_pure_bind]
  exact Sequencing.bind_of_ok checked _

end Interpreter
end SpendRules

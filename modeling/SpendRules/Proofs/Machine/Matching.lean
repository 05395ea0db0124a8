import Mathlib.Data.List.Forall2
import Mathlib.Data.List.NodupEquivFin
import SpendRules.Proofs.Machine.Positions
import SpendRules.Proofs.Machine.Progress
import SpendRules.Proofs.Machine.ValidSignatures

namespace SpendRules
namespace Interpreter

/-!
# Matching keys with signatures

In the older way of a multiple signature, a key is used up by the first signature
that is left, or by none, and the check gives up when there are fewer keys than
signatures.  Another choice of keys is never better: where the first signature
fits the first key, every matching remains one when that signature takes that key
instead of a later one.

The lists of keys and signatures can be replaced by positions on the stack and by
counts of what is left of them, without any check of these numbers.
-/

variable {vm : Interpreter} {code : Script} {signatures keys : List Bytes}

/-- Keys in order can be found for all signatures, each one valid for its own
key. -/
def CanMatch (vm : Interpreter) (code : Script) (signatures keys : List Bytes) : Prop :=
  ∃ place : Fin signatures.length -> Fin keys.length, StrictMono place ∧
    forall index, vm.IsValid code (signatures.get index) (keys.get (place index))

/-! ## The greedy choice -/

/-- The same by recursion over the keys, which the check goes through as well. -/
private theorem canMatch_iff :
    vm.CanMatch code signatures keys ↔ List.SublistForall₂ (vm.IsValid code) signatures keys := by
  rw [List.sublistForall₂_iff]
  constructor
  · rintro ⟨place, increases, valid⟩
    refine ⟨List.ofFn fun index => keys.get (place index),
      List.forall₂_iff_get.mpr ⟨List.length_ofFn.symm, ?_⟩, ?_⟩
    · intro index within _
      rw [List.get_ofFn]
      exact valid ⟨index, within⟩
    · refine List.sublist_iff_exists_fin_orderEmbedding_get_eq.mpr
        ⟨(Fin.castOrderIso List.length_ofFn).toOrderEmbedding.trans
          (OrderEmbedding.ofStrictMono place increases), fun index => ?_⟩
      rw [List.get_ofFn]
      rfl
  · rintro ⟨chosen, valid, sublist⟩
    rcases List.forall₂_iff_get.mp valid with ⟨sizes, valid⟩
    rcases List.sublist_iff_exists_fin_orderEmbedding_get_eq.mp sublist with ⟨place, same⟩
    refine ⟨fun index => place (index.cast sizes), fun index other less => place.strictMono less,
      fun index => ?_⟩
    rw [← same]
    exact valid index index.isLt (index.cast sizes).isLt

section

variable {α β : Type} {fits : α -> β -> Prop} {first : α} {rest : List α} {key : β} {list : List β}

private theorem sublistForall₂_tail (matched : List.SublistForall₂ fits (first :: rest) list) :
    List.SublistForall₂ fits rest list := by
  generalize given : first :: rest = all at matched
  induction matched with
  | nil => cases given
  | cons _ matched _ =>
      cases given
      exact .cons_right matched
  | cons_right _ inductionHypothesis => exact .cons_right (inductionHypothesis given)

/-- A key that fits may be given to the first element: if the matching has given
it a later one, the rest still has its own. -/
private theorem sublistForall₂_of_fits (holds : fits first key) :
    List.SublistForall₂ fits (first :: rest) (key :: list) ↔
      List.SublistForall₂ fits rest list := by
  constructor
  · rintro (_ | ⟨_, matched⟩ | matched)
    · exact matched
    · exact sublistForall₂_tail matched
  · exact .cons holds

/-- A key that does not fit the first element is of no use to the others. -/
private theorem sublistForall₂_of_misfits (misfits : ¬ fits first key) :
    List.SublistForall₂ fits (first :: rest) (key :: list) ↔
      List.SublistForall₂ fits (first :: rest) list := by
  constructor
  · rintro (_ | ⟨holds, _⟩ | matched)
    · exact absurd holds misfits
    · exact matched
  · exact .cons_right

private theorem not_sublistForall₂_of_lt {elements : List α}
    (fewer : list.length < elements.length) :
    ¬ List.SublistForall₂ fits elements list := by
  intro matched
  rcases List.sublistForall₂_iff.mp matched with ⟨chosen, holds, sublist⟩
  have sizes := holds.length_eq
  have few := sublist.length_le
  omega

end

variable {machine after : Machine} {valid : Bool}

/-- The check finds a matching if there is one.  The induction is on the keys, and in
each step there is a matching before it if and only if there is one behind it. -/
private theorem matchKeys_greedy
    (ran : vm.matchKeys code signatures keys machine = .ok valid after) :
    after.stack = machine.stack ∧
    (valid = true ↔ List.SublistForall₂ (vm.IsValid code) signatures keys) := by
  induction keys generalizing signatures machine with
  | nil =>
      cases signatures with
      | nil =>
          rcases Sequencing.pure_eq_ok_iff.mp ran with ⟨rfl, rfl⟩
          exact ⟨rfl, iff_of_true rfl .nil⟩
      | cons signature signatures =>
          rcases Sequencing.pure_eq_ok_iff.mp ran with ⟨rfl, rfl⟩
          exact ⟨rfl, iff_of_false Bool.false_ne_true nofun⟩
  | cons key keys inductionHypothesis =>
      cases signatures with
      | nil =>
          rcases Sequencing.pure_eq_ok_iff.mp ran with ⟨rfl, rfl⟩
          exact ⟨rfl, iff_of_true rfl .nil⟩
      | cons signature signatures =>
          rcases Step.ofExcept_bind_eq_ok_iff.mp ran with ⟨_, _, ran⟩
          rcases Step.ofExcept_bind_eq_ok_iff.mp ran with ⟨_, _, ran⟩
          rcases Sequencing.bind_eq_ok_iff.mp ran with ⟨fits, middle, checked, ran⟩
          have greedy : List.SublistForall₂ (vm.IsValid code) (signature :: signatures)
                (key :: keys) ↔
              List.SublistForall₂ (vm.IsValid code)
                (if fits then signatures else signature :: signatures) keys := by
            cases fits with
            | true => exact sublistForall₂_of_fits ((isValid_iff checked).mpr rfl)
            | false => exact sublistForall₂_of_misfits fun isValid =>
                nomatch (isValid_iff checked).mp isValid
          rw [greedy]
          generalize (if fits then signatures else signature :: signatures) = left at ran ⊢
          by_cases fewer : left.length > keys.length
          · rw [if_pos fewer] at ran
            rcases Sequencing.pure_eq_ok_iff.mp ran with ⟨rfl, rfl⟩
            exact ⟨stack_of_checkSignature checked,
              iff_of_false Bool.false_ne_true (not_sublistForall₂_of_lt fewer)⟩
          · rw [if_neg fewer] at ran
            rcases inductionHypothesis ran with ⟨same, matched⟩
            exact ⟨same.trans (stack_of_checkSignature checked), matched⟩

/-! ## Keys and signatures on the stack -/

/-- Match what is left of the keys with what is left of the signatures, both from
a depth of the stack on. -/
def matchInPlace (vm : Interpreter) (code : Script) : Nat -> Nat -> Nat -> Nat -> PartialStep Bool
  | _, _, 0, _ => pure true
  | 0, _, _ + 1, _ => failure
  | keysLeft + 1, keyDepth, signaturesLeft + 1, signatureDepth => do
    let signature <- PartialStep.atDepth signatureDepth
    let key <- PartialStep.atDepth keyDepth
    liftM (Step.ofExcept (Signature.checkTransactionEcdsa signature vm.rules))
    liftM (Step.ofExcept (Signature.checkKey key vm.rules))
    let valid <- liftM (vm.checkSignature signature key code)
    let signaturesLeft := if valid then signaturesLeft else signaturesLeft + 1
    let signatureDepth := if valid then signatureDepth + 1 else signatureDepth
    if signaturesLeft > keysLeft then return false
    else matchInPlace vm code keysLeft (keyDepth + 1) signaturesLeft signatureDepth

/-- Check a multiple signature in the older way, with keys and signatures from a
depth of the stack on. -/
def checkMatchingInPlace (vm : Interpreter) (code : Script)
    (keyCount signatureCount topKey topSignature : Nat) :
    PartialStep Bool := do
  let valid <- vm.matchInPlace code keyCount topKey signatureCount topSignature
  let signatures <- PartialStep.fromDepth topSignature signatureCount
  liftM (vm.demandEmpty valid signatures)
  if signatures.any (fun signature => !signature.isEmpty) then liftM (vm.countSigChecks keyCount)
  return valid

private theorem run_matchInPlace {keyDepth signatureDepth : Nat}
    (holdsKeys : machine.Holds keyDepth keys)
    (holdsSignatures : machine.Holds signatureDepth signatures)
    (enough : signatures.length ≤ keys.length) :
    (vm.matchInPlace code keys.length keyDepth signatures.length signatureDepth).run machine =
      (some <$> vm.matchKeys code signatures keys) machine := by
  induction keys generalizing signatures machine keyDepth signatureDepth with
  | nil =>
      cases signatures with
      | nil => rfl
      | cons signature signatures => exact absurd enough (Nat.not_succ_le_zero _)
  | cons key keys inductionHypothesis =>
      cases signatures with
      | nil => rfl
      | cons signature signatures =>
          rw [List.length_cons, List.length_cons, matchInPlace, matchKeys]
          rw [PartialStep.run_bind_atDepth_first holdsSignatures,
            PartialStep.run_bind_atDepth_first holdsKeys]
          simp only [PartialStep.run_bind_liftM, map_bind]
          refine Step.ofExcept_bind_congr fun _ => Step.ofExcept_bind_congr fun _ => ?_
          refine Sequencing.bind_congr fun valid middle checked => ?_
          have same := stack_of_checkSignature checked
          have holdsLeft : middle.Holds (if valid then signatureDepth + 1 else signatureDepth)
              (if valid then signatures else signature :: signatures) := by
            cases valid with
            | true => exact holdsSignatures.tail.of_stack_eq same
            | false => exact holdsSignatures.of_stack_eq same
          have count : (if valid then signatures.length else signatures.length + 1) =
              (if valid then signatures else signature :: signatures).length := by
            cases valid with
            | true => rfl
            | false => rfl
          rw [count]
          generalize (if valid then signatures else signature :: signatures) = left at holdsLeft ⊢
          by_cases fewer : left.length > keys.length
          · rw [if_pos fewer, if_pos fewer]
            rfl
          · rw [if_neg fewer, if_neg fewer]
            exact inductionHypothesis (holdsKeys.tail.of_stack_eq same) holdsLeft
              (Nat.le_of_not_lt fewer)

private theorem run_checkMatchingInPlace {topKey topSignature : Nat}
    (holdsKeys : machine.Holds topKey keys)
    (holdsSignatures : machine.Holds topSignature signatures)
    (enough : signatures.length ≤ keys.length) :
    (vm.checkMatchingInPlace code keys.length signatures.length topKey topSignature).run machine =
      (some <$> vm.checkMultiSigByMatching code signatures keys) machine := by
  refine PartialStep.run_bind_eq (run_matchInPlace holdsKeys holdsSignatures enough)
    fun valid middle matched => ?_
  have same := (matchKeys_greedy matched).1
  rw [PartialStep.run_bind_fromDepth (holdsSignatures.of_stack_eq same),
    PartialStep.run_bind_liftM, map_bind]
  refine Sequencing.bind_congr fun _ _ _ => ?_
  cases signatures.any fun signature => !signature.isEmpty with
  | true =>
      rw [if_pos rfl, if_pos rfl, PartialStep.run_bind_liftM, map_bind]
      rfl
  | false =>
      rw [if_neg Bool.false_ne_true, if_neg Bool.false_ne_true]
      rfl

/-- The value of a check is that of its matching. -/
private theorem canMatch_of_checked
    (checked : vm.checkMultiSigByMatching code signatures keys machine = .ok valid after) :
    valid = true ↔ vm.CanMatch code signatures keys := by
  rcases Sequencing.bind_eq_ok_iff.mp checked with ⟨found, middle, matched, checked⟩
  rcases Sequencing.bind_eq_ok_iff.mp checked with ⟨_, _, _, checked⟩
  obtain rfl : found = valid := eq_of_counted checked
  rw [canMatch_iff]
  exact (matchKeys_greedy matched).2

/-- The older way of a multiple signature ends with true only if the signatures can
be matched with keys, and with false only if they cannot.

Keys and signatures of an operation lie on the stack below their counts.  They may
as well be left there: while there are no more signatures than keys, no position
leaves the stack and no count falls below zero. -/
theorem checkMultiSigByMatching_complete (vm : Interpreter) (code : Script)
    (signatures keys : List Bytes) (machine : Machine) :
    (forall after, vm.checkMultiSigByMatching code signatures keys machine = .ok true after ->
      vm.CanMatch code signatures keys) ∧
    (forall after, vm.checkMultiSigByMatching code signatures keys machine = .ok false after ->
      ¬ vm.CanMatch code signatures keys) ∧
    forall keyCount sigCount rest,
        machine.stack = keyCount :: (keys ++ sigCount :: (signatures ++ rest)) ->
      signatures.length ≤ keys.length ->
        (vm.checkMatchingInPlace code keys.length signatures.length 2 (keys.length + 3)).run
          machine =
          (some <$> vm.checkMultiSigByMatching code signatures keys) machine := by
  refine ⟨fun after checked => (canMatch_of_checked checked).mp rfl,
    fun after checked matched => ?_, ?_⟩
  · exact Bool.false_ne_true ((canMatch_of_checked checked).mpr matched)
  · intro keyCount sigCount rest stack enough
    rcases Machine.Holds.of_stack stack with ⟨holdsKeys, holdsSignatures⟩
    exact run_checkMatchingInPlace holdsKeys holdsSignatures enough

/-- The operands of a multiple signature of three keys.  Two signatures are of the
second and of the third one. -/
private def lowerTwoMachine : Machine where
  script := { bytes := [0xae] }
  stack := [[3], [1], [2], [3], [2], [2, 0], [3, 0], []]

/-- The first key fits no signature. -/
theorem checkMultiSigByMatching_lowerTwo :
    ∃ after, mirroringInterpreter.checkMultiSigByMatching
      lowerTwoMachine.script [[2, 0], [3, 0]] [[1], [2], [3]]
        lowerTwoMachine = .ok true after ∧
      mirroringInterpreter.CanMatch lowerTwoMachine.script [[2, 0], [3, 0]] [[1], [2], [3]] ∧
      (mirroringInterpreter.checkMatchingInPlace lowerTwoMachine.script 3 2 2 6).run
        lowerTwoMachine =
        .ok (some true) after := by
  obtain ⟨after, checked⟩ : ∃ after,
    mirroringInterpreter.checkMultiSigByMatching lowerTwoMachine.script
      [[2, 0], [3, 0]] [[1], [2], [3]] lowerTwoMachine = .ok true after := ⟨_, rfl⟩
  rcases checkMultiSigByMatching_complete mirroringInterpreter
    lowerTwoMachine.script [[2, 0], [3, 0]]
    [[1], [2], [3]] lowerTwoMachine with ⟨matched, _, inPlace⟩
  refine ⟨after, checked, matched after checked, (inPlace [3] [2] [[]] rfl (by decide)).trans ?_⟩
  rw [map_eq_pure_bind]
  exact Sequencing.bind_of_ok checked _

end Interpreter
end SpendRules

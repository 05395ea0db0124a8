import Mathlib.Data.Nat.Bitwise
import SpendRules.Proofs.Machine.Numbers

namespace SpendRules
namespace Interpreter

open Sequencing

/-!
# When lock times are reached

A sequence number holds a relative time in fields: one bit switches the time off,
another one tells its kind, and the lowest sixteen bits are its amount.  The machine
masks the bits of kind and amount and compares what is left as one number.  Since the
bit of the kind stands above the amount, times of the same kind are then compared by
their amounts, and no other bit of either number takes part.

The operand may have more bits than a sequence number.  Those are masked with the
others, but for the bit that switches the time off, which is looked at before.
-/

variable {vm : Interpreter} {machine : Machine} {context : SpendingContext}

/-! ## The fields of a sequence number -/

private theorem and_flag (sequence bit : Nat) :
    sequence &&& 2 ^ bit = 2 ^ bit * (sequence.testBit bit).toNat := by
  rw [Nat.and_two_pow, Nat.mul_comm]

/-- Under the mask, the kind stands above the amount. -/
theorem relativeTime_eq (sequence : Nat) :
    relativeTime sequence = 2 ^ 22 * (sequence.testBit 22).toNat + sequence % 2 ^ 16 := by
  have amount : sequence &&& sequenceAmountMask = sequence % 2 ^ 16 :=
    Nat.and_two_pow_sub_one_eq_mod sequence 16
  have small : sequence % 2 ^ 16 < 2 ^ 22 := Nat.lt_trans (Nat.mod_lt _ (by decide)) (by decide)
  -- No bit belongs to both, so the parts under the mask add up.
  rw [relativeTime, Nat.and_or_distrib_left, amount, Nat.two_pow_add_eq_or_of_lt small]
  exact congrArg (· ||| _) (and_flag sequence 22)

theorem isDisabledSequence_eq (sequence : Nat) :
    isDisabledSequence sequence = sequence.testBit 31 := by
  have flag : sequence &&& sequenceDisabledFlag = 2 ^ 31 * (sequence.testBit 31).toNat :=
    and_flag sequence 31
  rw [isDisabledSequence, flag]
  cases sequence.testBit 31 with
  | true => rfl
  | false => rfl

/-- A masked time is below the flag exactly when the flag is clear. -/
private theorem relativeTime_lt_iff (sequence : Nat) :
    relativeTime sequence < sequenceTypeFlag ↔ sequence.testBit 22 = false := by
  have small : sequence % 2 ^ 16 < 2 ^ 16 := Nat.mod_lt _ (by decide)
  rw [relativeTime_eq, sequenceTypeFlag]
  cases sequence.testBit 22 with
  | true => exact iff_of_false (by rw [Bool.toNat_true]; omega) nofun
  | false => exact iff_of_true (by rw [Bool.toNat_false]; omega) rfl

/-- Times of the same kind are ordered by their amounts. -/
private theorem relativeTime_le_iff {time sequence : Nat}
    (sameKind : time.testBit 22 = sequence.testBit 22) :
    relativeTime time ≤ relativeTime sequence ↔ time % 2 ^ 16 ≤ sequence % 2 ^ 16 := by
  rw [relativeTime_eq, relativeTime_eq, sameKind]
  exact Nat.add_le_add_iff_left

/-! ## Times that are reached -/

/-- An absolute time is of the kind of the transaction's lock time and not after it, and the
input heeds lock times. -/
structure ReachesAbsolute (context : SpendingContext) (time : Int) : Prop where
  notAfter : time ≤ context.tx.lockTime.toNat
  sameKind : time < 500000000 ↔ context.tx.lockTime.toNat < 500000000
  heeded : context.input.sequence ≠ 0xffffffff

/-- A relative time is of the kind of the input's sequence number and its amount is not greater,
where sequence numbers are times at all. -/
structure ReachesRelative (context : SpendingContext) (time : Int) : Prop where
  version : 2 ≤ context.tx.version.toNat
  switchedOn : context.input.sequence.toNat.testBit 31 = false
  sameKind : time.toNat.testBit 22 = context.input.sequence.toNat.testBit 22
  notAfter : time % 65536 ≤ context.input.sequence.toNat % 65536

theorem reachesLockTime_iff {time : Int} (nonneg : 0 ≤ time) :
    reachesLockTime context time.toNat = true ↔ ReachesAbsolute context time := by
  obtain ⟨time, rfl⟩ := Int.eq_ofNat_of_zero_le nonneg
  unfold reachesLockTime lockTimeThreshold finalSequence
  simp only [Bool.and_eq_true, bne_iff_ne, beq_iff_eq, decide_eq_decide, decide_eq_true_eq,
    Int.toNat_natCast]
  constructor
  · rintro ⟨⟨sameKind, notAfter⟩, heeded⟩
    exact ⟨by omega, by omega, heeded⟩
  · rintro ⟨notAfter, sameKind, heeded⟩
    exact ⟨⟨by omega, by omega⟩, heeded⟩

/-- The comparison under masks compares the fields. -/
theorem reachesSequence_iff {time : Int} (nonneg : 0 ≤ time) :
    reachesSequence context time.toNat = true ↔ ReachesRelative context time := by
  obtain ⟨time, rfl⟩ := Int.eq_ofNat_of_zero_le nonneg
  have kinds (own demanded : Nat) :
      (relativeTime own < sequenceTypeFlag ↔ relativeTime demanded < sequenceTypeFlag) ↔
      demanded.testBit 22 = own.testBit 22 := by
    rw [relativeTime_lt_iff, relativeTime_lt_iff]
    cases own.testBit 22 <;> cases demanded.testBit 22 <;> simp
  unfold reachesSequence
  simp only [isDisabledSequence_eq, Bool.and_eq_true, Bool.not_eq_true', beq_iff_eq,
    decide_eq_decide, decide_eq_true_eq, kinds, Int.toNat_natCast, UInt32.le_iff_toNat_le]
  constructor
  · rintro ⟨⟨⟨version, switchedOn⟩, sameKind⟩, notAfter⟩
    rw [relativeTime_le_iff sameKind] at notAfter
    exact ⟨version, switchedOn, sameKind, by omega⟩
  · rintro ⟨version, switchedOn, sameKind, notAfter⟩
    refine ⟨⟨⟨version, switchedOn⟩, sameKind⟩, (relativeTime_le_iff sameKind).mpr ?_⟩
    omega

/-! ## The two operations -/

private theorem elementAt_still (index : Nat) :
    Progress.still.Along (Step.elementAt index) machine := by
  rw [Progress.Along, finalState, Step.elementAt, Step.stack_bind]
  cases machine.stack[index]? with
  | none => rfl
  | some element => rfl

private theorem demandContext_still (vm : Interpreter) :
    Progress.still.Along vm.demandContext machine := by
  unfold demandContext
  cases vm.context with
  | none => exact .throw _
  | some context => exact .pure context

private theorem lockTimeOperand_still (vm : Interpreter) :
    Progress.still.Along vm.lockTimeOperand machine := by
  simp only [lockTimeOperand, throw_bind]
  exact (elementAt_still 0).bind fun element _ _ => .check fun time _ =>
    .ite (fun _ => .throw _) fun _ => .pure time.toNat

private theorem reservedForUpgrade_still (vm : Interpreter) :
    Progress.still.Along vm.reservedForUpgrade machine :=
  .ite (fun _ => .throw _) fun _ => .pure ()

/-- Nothing is changed, whether the time is reached or not, and whether or not there is a time. -/
theorem checkLockTime_still (vm : Interpreter) (machine : Machine) :
    finalState vm.checkLockTime machine = machine := by
  change Progress.still.Along vm.checkLockTime machine
  refine .ite (fun _ => ?_) fun _ => reservedForUpgrade_still vm
  exact (lockTimeOperand_still vm).bind fun time _ _ =>
    (demandContext_still vm).bind fun context _ _ =>
    .ite (fun _ => .throw _) fun _ => .pure ()

theorem checkSequence_still (vm : Interpreter) (machine : Machine) :
    finalState vm.checkSequence machine = machine := by
  change Progress.still.Along vm.checkSequence machine
  refine .ite (fun _ => ?_) fun _ => reservedForUpgrade_still vm
  refine (lockTimeOperand_still vm).bind fun time _ _ => .ite (fun _ => ?_) fun _ => .pure ()
  exact (demandContext_still vm).bind fun context _ _ => .ite (fun _ => .throw _) fun _ => .pure ()

section

variable {element : Bytes} {rest : List Bytes} {number : Int}
  (found : machine.stack = element :: rest)
  (reads : ScriptNumber.decode element (vm.enables .minimalData) 5 = .ok number)

include found reads

/-- The operand stays where it is. -/
private theorem lockTimeOperand_of_reads :
    vm.lockTimeOperand machine =
      if number < 0 then .error .negativeLocktime machine else .ok number.toNat machine := by
  have onTop : Step.elementAt 0 machine = .ok element machine :=
    Step.elementAt_eq_ok_iff.mpr ⟨by rw [found]; rfl, rfl⟩
  simp only [lockTimeOperand, throw_bind]
  rw [bind_of_ok onTop, lockTimeOperandSize, reads]
  change (if number < 0 then throw .negativeLocktime else pure number.toNat : Step Nat) machine = _
  split
  · rfl
  · rfl

/-- A negative time fails both operations. -/
private theorem lockTimeOperand_of_neg (negative : number < 0) :
    vm.lockTimeOperand machine = .error .negativeLocktime machine :=
  (lockTimeOperand_of_reads found reads).trans (if_pos negative)

private theorem lockTimeOperand_of_nonneg (nonneg : 0 ≤ number) :
    vm.lockTimeOperand machine = .ok number.toNat machine :=
  (lockTimeOperand_of_reads found reads).trans (if_neg (Int.not_lt.mpr nonneg))

variable (spending : vm.context = some context)

include spending

omit found reads in
private theorem demandContext_of_eq : vm.demandContext machine = .ok context machine := by
  rw [demandContext, spending]
  rfl

private theorem checkLockTime_iff (enabled : vm.enables .checkLockTime = true) :
    (∃ after, vm.checkLockTime machine = .ok () after) ↔
      0 ≤ number ∧ ReachesAbsolute context number := by
  unfold checkLockTime
  rw [if_pos enabled]
  by_cases nonneg : 0 ≤ number
  · rw [bind_of_ok (lockTimeOperand_of_nonneg found reads nonneg),
      bind_of_ok (demandContext_of_eq spending), and_iff_right nonneg, ← reachesLockTime_iff nonneg]
    cases reachesLockTime context number.toNat with
    | true => exact iff_of_true ⟨machine, rfl⟩ rfl
    | false => exact iff_of_false (fun ⟨_, impossible⟩ => throw_ne_ok impossible) Bool.false_ne_true
  · rw [bind_of_error (lockTimeOperand_of_neg found reads (Int.not_le.mp nonneg))]
    exact iff_of_false (fun ⟨_, impossible⟩ => nomatch impossible) fun reached => nonneg reached.1

private theorem checkSequence_iff (enabled : vm.enables .checkSequence = true) :
    (∃ after, vm.checkSequence machine = .ok () after) ↔
      0 ≤ number ∧ (number.toNat.testBit 31 = true ∨ ReachesRelative context number) := by
  unfold checkSequence
  rw [if_pos enabled]
  by_cases nonneg : 0 ≤ number
  · rw [bind_of_ok (lockTimeOperand_of_nonneg found reads nonneg), and_iff_right nonneg,
      isDisabledSequence_eq]
    cases number.toNat.testBit 31 with
    | true => exact iff_of_true ⟨machine, rfl⟩ (Or.inl rfl)
    | false =>
        rw [Bool.not_false, if_pos rfl, bind_of_ok (demandContext_of_eq spending),
          ← reachesSequence_iff nonneg]
        cases reachesSequence context number.toNat with
        | true => exact iff_of_true ⟨machine, rfl⟩ (Or.inr rfl)
        | false => exact iff_of_false (fun ⟨_, impossible⟩ => throw_ne_ok impossible) (by simp)
  · rw [bind_of_error (lockTimeOperand_of_neg found reads (Int.not_le.mp nonneg))]
    exact iff_of_false (fun ⟨_, impossible⟩ => nomatch impossible) fun reached => nonneg reached.1

end

/-- Where the rules enable them, the two operations accept exactly the times that are
reached, and a relative time also when it is switched off.  Whatever they find, they
change nothing. -/
theorem lockTimes_exact {vm : Interpreter} {machine : Machine} {element : Bytes} {rest : List Bytes}
    {number : Int} {context : SpendingContext} (found : machine.stack = element :: rest)
    (reads : ScriptNumber.decode element (vm.enables .minimalData) 5 = .ok number)
    (spending : vm.context = some context) :
    (vm.enables .checkLockTime = true -> ((∃ after, vm.checkLockTime machine = .ok () after) ↔
        0 ≤ number ∧ ReachesAbsolute context number)) ∧
      (vm.enables .checkSequence = true -> ((∃ after, vm.checkSequence machine = .ok () after) ↔
        0 ≤ number ∧ (number.toNat.testBit 31 = true ∨ ReachesRelative context number))) ∧
      forall (vm : Interpreter) (machine : Machine),
        finalState vm.checkLockTime machine = machine ∧
        finalState vm.checkSequence machine = machine :=
  ⟨checkLockTime_iff found reads spending, checkSequence_iff found reads spending,
    fun vm machine => ⟨checkLockTime_still vm machine, checkSequence_still vm machine⟩⟩

private def lockTimeInterpreter (context : SpendingContext) : Interpreter where
  rules := .ofFlags (Rule.checkLockTime.publicMask ||| Rule.checkSequence.publicMask)
  verifier _ := .ok false
  context := some context

/-- A spending that is locked as long as a transaction can be, with an input that is locked for
five units of seconds. -/
private def lockedContext : SpendingContext where
  tx := {
    version := 2
    inputs := [{ prevout := .null, script := { bytes := [] }, sequence := 0x400005 }]
    outputs := []
    lockTime := 0xffffffff }
  index := 0
  input := { prevout := .null, script := { bytes := [] }, sequence := 0x400005 }
  input_eq := rfl
  spent := .missing
  allSpent := none
  allSpent_eq _ absent := nomatch absent

/-- Three units of seconds, with bits set that belong to no field. -/
private def lockedMachine : Machine where
  stack := [[0x03, 0x00, 0x47, 0x00, 0x01]]
  script := { bytes := [] }

/-- Three units of seconds are reached when there are five.  As an absolute time, the same number
is never reached. -/
theorem lockTimes_exact_threeUnits :
    (∃ after, (lockTimeInterpreter lockedContext).checkSequence lockedMachine = .ok () after) ∧
      ¬ ∃ after, (lockTimeInterpreter lockedContext).checkLockTime lockedMachine =
        .ok () after := by
  have reads : ScriptNumber.decode [0x03, 0x00, 0x47, 0x00, 0x01]
      ((lockTimeInterpreter lockedContext).enables .minimalData) 5 = .ok 0x100470003 := rfl
  have found : lockedMachine.stack = [[0x03, 0x00, 0x47, 0x00, 0x01]] := rfl
  have exact := lockTimes_exact found reads rfl
  rw [exact.1 rfl, exact.2.1 rfl]
  constructor
  · exact ⟨by decide, Or.inr ⟨by decide, by decide, by decide, by decide⟩⟩
  · rintro ⟨_, reached⟩
    exact absurd reached.notAfter (by decide)

end Interpreter
end SpendRules

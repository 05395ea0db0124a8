import SpendRules.Proofs.Machine.ElementBounds

namespace SpendRules

/-- Every hash that scripts can ask for has at most thirty-two bytes. -/
theorem Hash.Algorithm.length_apply_le (algorithm : Hash.Algorithm) (message : Bytes) :
    (algorithm.apply message).length ≤ 32 := by
  cases algorithm with
  | ripemd160 => exact Nat.le_trans (Nat.le_of_eq (Ripemd160.length_digest _)) (by decide)
  | sha1 => exact Nat.le_trans (Nat.le_of_eq (Sha1.length_digest _)) (by decide)
  | sha256 => exact Nat.le_of_eq (Hash.sha256 message).length_eq
  | hash160 => exact Nat.le_trans (Nat.le_of_eq (Ripemd160.length_digest _)) (by decide)
  | hash256 => exact Nat.le_of_eq (doubleSha256 message).length_eq

namespace Interpreter

/-!
# How long the elements are that operations push

Copies, parts and combinations of elements are no longer than the elements.
Elements that are joined or filled up are checked.  Hashes have at most
thirty-two bytes, and numbers are short in one of two ways.  While the rules do
not bound numbers, operands have four bytes; then results have at most eight,
and lengths are words.  Otherwise the bound on numbers is no wider than the
limit on elements.
-/

variable {vm : Interpreter}

/-! ## Numbers -/

private theorem operandSize_of_unbounded (unbounded : vm.numberBounds.resultSize = none) :
    vm.numberBounds.operandSize = 4 := by
  rcases numberBounds_cases vm with ⟨_, bounded⟩ | ⟨_, size, _⟩
  · rw [unbounded] at bounded
    cases bounded
  · exact size

private theorem maxElementSize_lt (vm : Interpreter) : vm.maxElementSize < 2 ^ 64 := by
  unfold maxElementSize
  split
  · exact vm.limits.may2025MaxElementSize.toNat_lt
  · exact vm.limits.maxElementSize.toNat_lt

section

variable (wide : 40 ≤ vm.maxElementSize)

include wide

/-- Numbers may not be longer than elements. -/
private theorem numberBounds_le :
    vm.numberBounds.operandSize ≤ vm.maxElementSize ∧
      forall size, vm.numberBounds.resultSize = some size -> size ≤ vm.maxElementSize := by
  unfold numberBounds
  cases metered : vm.isMetered with
  | true =>
      have same : vm.maxElementSize = vm.limits.may2025MaxElementSize.toNat := by
        rw [maxElementSize, metered, if_pos rfl]
      rw [same]
      exact ⟨Nat.le_refl _, fun size found => Nat.le_of_eq (Option.some.inj found).symm⟩
  | false =>
      cases vm.enables .integers64 with
      | true =>
          have eight : 8 ≤ vm.maxElementSize := Nat.le_trans (by decide) wide
          exact ⟨eight, fun size found => Option.some.inj found ▸ eight⟩
      | false =>
          have four : 4 ≤ vm.maxElementSize := Nat.le_trans (by decide) wide
          exact ⟨four, nofun⟩

/-- A number is short because its length was checked, or because it is small. -/
theorem pushNumber_bounds {number : Int}
    (small : vm.numberBounds.resultSize = none -> number.natAbs < 2 ^ 64) :
    Step.Bounds vm.maxElementSize (fun _ => True) (vm.pushNumber number) := by
  have checks : Step.Bounds vm.maxElementSize
      (fun result : Int => (ScriptNumber.encode result).length ≤ vm.maxElementSize)
      (Step.ofExcept (ScriptNumber.checkResult vm.numberBounds.resultSize number)) := by
    refine .ofExcept fun result checked => ?_
    rcases ScriptNumber.checkResult_eq_ok_iff.mp checked with ⟨short, rfl⟩
    rw [ScriptNumber.length_encode]
    cases bounded : vm.numberBounds.resultSize with
    | none =>
        have nine : ScriptNumber.encodedLength number ≤ 9 :=
          ScriptNumber.encodedLength_le_iff.mpr (Nat.lt_trans (small bounded) (by decide))
        omega
    | some size => exact Nat.le_trans (short size bounded) ((numberBounds_le wide).2 size bounded)
  exact checks.bind fun _ short => push_bounds short

theorem pushBool_bounds (condition : Bool) :
    Step.Bounds vm.maxElementSize (fun _ => True) (vm.pushBool condition) := by
  refine push_bounds ?_
  cases condition with
  | true => exact Nat.le_trans (by decide) wide
  | false => exact Nat.zero_le _

theorem unary_bounds (operation : UnaryOperation) :
    Step.Bounds vm.maxElementSize (fun _ => True) (vm.unary operation) := by
  refine popNumber_bounds.bind fun number operand => pushNumber_bounds wide fun unbounded => ?_
  rw [operandSize_of_unbounded unbounded] at operand
  exact Nat.lt_trans (natAbs_unaryResult_lt operand operation) (by decide)

theorem binary_bounds (operation : BinaryOperation) :
    Step.Bounds vm.maxElementSize (fun _ => True) (vm.binary operation) := by
  have compute : Step.Bounds vm.maxElementSize (fun _ => True)
      (do let b <- vm.popNumber
          let a <- vm.popNumber
          let result <- Step.ofExcept (binaryResult operation a b)
          vm.pushNumber result) := by
    refine popNumber_bounds.bind fun b operandB => popNumber_bounds.bind fun a operandA => ?_
    have computes : Step.Bounds vm.maxElementSize
        (fun result => binaryResult operation a b = .ok result)
        (Step.ofExcept (binaryResult operation a b)) := .ofExcept fun _ computed => computed
    refine computes.bind fun result computed => pushNumber_bounds wide fun unbounded => ?_
    rw [operandSize_of_unbounded unbounded] at operandA operandB
    exact Nat.lt_trans (natAbs_binaryResult_lt operandA operandB computed) (by decide)
  refine (Step.require_bounds 2).bind fun _ _ => .ite (fun _ => ?_) fun _ => compute
  exact (Step.elementAt_bounds 0).bind fun b _ => (Step.elementAt_bounds 1).bind fun a _ =>
    (charge_bounds _).bind fun _ _ => compute

theorem within_bounds : Step.Bounds vm.maxElementSize (fun _ => True) vm.within :=
  (Step.require_bounds 3).bind fun _ _ => popNumber_bounds.bind fun _ _ =>
    popNumber_bounds.bind fun _ _ =>
    popNumber_bounds.bind fun _ _ => pushBool_bounds wide _

end

/-! ## Elements of the stacks -/

/-- Copies are elements that are there already. -/
private theorem pushCopies_bounds {limit : Nat} {choose : List Bytes -> Option (List Bytes)}
    (copies : forall stack chosen, choose stack = some chosen -> chosen ⊆ stack) :
    Step.Bounds limit (fun _ => True) (vm.pushCopies choose) := by
  refine .lookStack fun stack within => ?_
  cases chosen : choose stack with
  | none => exact .throw _
  | some elements => exact pushAll_bounds (within.of_subset (copies stack elements chosen))

private theorem pushFromDepth_bounds {limit : Nat} (moves : Bool) :
    Step.Bounds limit (fun _ => True) (vm.pushFromDepth moves) := by
  simp only [pushFromDepth, Sequencing.throw_bind]
  refine (Step.require_bounds 2).bind fun _ _ => popIndex_bounds.bind fun depth _ => ?_
  refine .lookStack fun stack within => .refuse fun _ => ?_
  cases found : stack[depth.toNat]? with
  | none => exact .throw _
  | some element =>
      have short := within element (List.mem_of_getElem? found)
      have rest : ElementsWithin limit (stack.eraseIdx depth.toNat) :=
        within.of_subset (List.eraseIdx_subset ..)
      exact .ite (fun _ => (Step.setStack_bounds rest).bind fun _ _ => push_bounds short) fun _ =>
        push_bounds short

/-- The height of the stack is a number, which only the machine bounds. -/
theorem rearrangeStacks_bounds {limit : Nat} (operation : StackOperation)
    (unmeasured : operation ≠ .depth) :
    Step.Bounds limit (fun _ => True) (vm.rearrangeStacks operation) := by
  cases operation with
  | toAltStack =>
      exact Step.pop_bounds.bind fun element short => .modify fun _ bounded =>
        ⟨bounded.stack, ElementsWithin.cons_iff.mpr ⟨short, bounded.altStack⟩⟩
  | fromAltStack =>
      refine .look fun machine bounded => ?_
      cases found : machine.altStack with
      | nil => exact .throw _
      | cons element rest =>
          have within := bounded.altStack
          rw [found, ElementsWithin.cons_iff] at within
          have keeps : Step.Bounds limit (fun _ => True)
              (modify fun machine : Machine => { machine with altStack := rest }) :=
            .modify fun _ bounded => ⟨bounded.stack, within.2⟩
          exact keeps.bind fun _ _ => push_bounds within.1
  | rotTwo =>
      refine .lookStack fun stack within => ?_
      rcases stack with _ | ⟨f, _ | ⟨e, _ | ⟨d, _ | ⟨c, _ | ⟨b, _ | ⟨a, rest⟩⟩⟩⟩⟩⟩
      case cons.cons.cons.cons.cons.cons =>
        simp only [ElementsWithin.cons_iff] at within
        have others : ElementsWithin limit (f :: e :: d :: c :: rest) := by
          simp only [ElementsWithin.cons_iff, within, and_self]
        have rotated : ElementsWithin limit [a, b] := by
          simp only [ElementsWithin.cons_iff, within, ElementsWithin.nil, and_self]
        exact (Step.setStack_bounds others).bind fun _ _ => pushAll_bounds rotated
      all_goals exact .throw _
  | depth => exact (unmeasured rfl).elim
  | drop => exact Step.pop_bounds.bind fun _ _ => .unit
  | pick => exact pushFromDepth_bounds false
  | roll => exact pushFromDepth_bounds true
  | tuck =>
      refine .lookStack fun stack within => ?_
      rcases stack with _ | ⟨b, _ | ⟨a, rest⟩⟩
      · exact .throw _
      · exact .throw _
      · simp only [ElementsWithin.cons_iff] at within
        have tucked : ElementsWithin limit (b :: a :: b :: rest) := by
          simp only [ElementsWithin.cons_iff, within, and_self]
        exact (charge_bounds b.length).bind fun _ _ => Step.setStack_bounds tucked
  | dropTwo | swapTwo | nip | rot | swap =>
      refine Step.rearrange_bounds fun stack changed rearranged => ?_
      split at rearranged
      · cases rearranged
        grind
      · cases rearranged
  -- All others push copies of elements.
  | _ =>
      refine pushCopies_bounds fun stack chosen copied => ?_
      split at copied
      · cases copied
        grind
      · cases copied

private theorem split_bounds {limit : Nat} : Step.Bounds limit (fun _ => True) vm.split := by
  simp only [split, Sequencing.throw_bind]
  refine (Step.require_bounds 2).bind fun _ _ => popIndex_bounds.bind fun position _ => ?_
  refine Step.pop_bounds.bind fun element short => .refuse fun _ => ?_
  have front : (element.take position.toNat).length ≤ limit := by
    rw [List.length_take]
    omega
  have back : (element.drop position.toNat).length ≤ limit := by
    rw [List.length_drop]
    omega
  exact (push_bounds front).bind fun _ _ => push_bounds back

/-- A number that is written with a given length has that length. -/
private theorem numToBin_bounds : Step.Bounds vm.maxElementSize (fun _ => True) vm.numToBin := by
  simp only [numToBin, Sequencing.throw_bind]
  refine (Step.require_bounds 2).bind fun _ _ => popIndex_bounds.bind fun size _ =>
    .refuse fun permitted => ?_
  refine Step.pop_bounds.bind fun element _ => .refuse fun fits => push_bounds ?_
  rw [ScriptNumber.length_widen (Nat.le_of_not_lt fits)]
  omega

theorem bitwise_bounds {limit : Nat} (operation : BitwiseOperation) :
    Step.Bounds limit (fun _ => True) (vm.bitwise operation) := by
  refine .lookStack fun stack within => ?_
  rcases stack with _ | ⟨b, _ | ⟨a, rest⟩⟩
  · exact .throw _
  · exact .throw _
  simp only [ElementsWithin.cons_iff] at within
  have combined : (List.zipWith (combineBytes operation) a b).length ≤ limit := by
    rw [List.length_zipWith]
    omega
  exact .refuse fun _ => (Step.setStack_bounds within.2.2).bind fun _ _ => push_bounds combined

theorem hash_bounds {limit : Nat} (hashes : vm.hashes = Hash.Algorithm.apply) (wide : 40 ≤ limit)
    (algorithm : Hash.Algorithm) : Step.Bounds limit (fun _ => True) (vm.hash algorithm) := by
  unfold hash
  rw [hashes]
  have short (message : Bytes) : (algorithm.apply message).length ≤ limit :=
    Nat.le_trans (algorithm.length_apply_le message) (Nat.le_trans (by decide) wide)
  exact Step.pop_bounds.bind fun message _ => (chargeHash_bounds _ _).bind fun _ _ =>
    push_bounds (short message)

theorem openBranch_bounds {limit : Nat} (negated executing : Bool) :
    Step.Bounds limit (fun _ => True) (vm.openBranch negated executing) := by
  have enter (taken : Bool) : Step.Bounds limit (fun _ => True)
      (do modify fun machine => { machine with branches := taken :: machine.branches }
          if vm.isMetered &&
            decide ((<- get).branches.length > vm.limits.maxConditionalDepth.toNat) then
            throw .conditionalStackDepth) :=
    (Step.modify_branches_bounds fun branches => taken :: branches).bind fun _ _ =>
      .look fun _ _ => .refuse fun _ => .unit
  refine .ite (fun _ => ?_) fun _ => enter false
  refine .lookStack fun stack within => ?_
  cases stack with
  | nil => exact .throw _
  | cons condition rest =>
      have restWithin := (ElementsWithin.cons_iff.mp within).2
      exact (Step.setStack_bounds restWithin).bind fun _ _ => enter _

theorem elseBranch_bounds {limit : Nat} : Step.Bounds limit (fun _ => True) elseBranch := by
  refine .look fun machine _ => ?_
  cases machine.branches with
  | nil => exact .throw _
  | cons taken rest => exact Step.modify_branches_bounds fun _ => (!taken) :: rest

theorem closeBranch_bounds {limit : Nat} : Step.Bounds limit (fun _ => True) closeBranch := by
  refine .look fun machine _ => ?_
  cases machine.branches with
  | nil => exact .throw _
  | cons _ rest => exact Step.modify_branches_bounds fun _ => rest

section

variable (wide : 40 ≤ vm.maxElementSize)

include wide

theorem splice_bounds (operation : SpliceOperation) :
    Step.Bounds vm.maxElementSize (fun _ => True) (vm.splice operation) := by
  cases operation with
  | cat =>
      refine .lookStack fun stack within => ?_
      rcases stack with _ | ⟨b, _ | ⟨a, rest⟩⟩
      · exact .throw _
      · exact .throw _
      simp only [ElementsWithin.cons_iff] at within
      refine .refuse fun fits => (Step.setStack_bounds within.2.2).bind fun _ _ => push_bounds ?_
      rw [List.length_append]
      exact Nat.le_of_not_lt fits
  | split => exact split_bounds
  | numToBin => exact numToBin_bounds
  | binToNum =>
      change Step.Bounds _ _ vm.binToNum
      simp only [binToNum, Sequencing.throw_bind]
      refine Step.pop_bounds.bind fun element _ => .refuse fun fits => push_bounds ?_
      exact Nat.le_trans (Nat.le_of_not_lt fits) (numberBounds_le wide).1
  | size =>
      refine (Step.elementAt_bounds 0).bind fun element short => pushNumber_bounds wide fun _ => ?_
      exact Nat.lt_of_le_of_lt short (maxElementSize_lt vm)
  | reverseBytes =>
      refine Step.pop_bounds.bind fun element short => push_bounds ?_
      rwa [List.length_reverse]

theorem equal_bounds (required : Bool) :
    Step.Bounds vm.maxElementSize (fun _ => True) (vm.equal required) := by
  refine .lookStack fun stack within => ?_
  rcases stack with _ | ⟨b, _ | ⟨a, rest⟩⟩
  · exact .throw _
  · exact .throw _
  simp only [ElementsWithin.cons_iff] at within
  exact (Step.setStack_bounds within.2.2).bind fun _ _ => (pushBool_bounds wide _).bind fun _ _ =>
    Step.verifyTopIf_bounds required _

end

end Interpreter
end SpendRules

import SpendRules.Proofs.Machine.Numbers

namespace SpendRules
namespace Interpreter

/-!
# Numbers of a given length

A number can be written with more bytes than it needs, and brought back into its
shortest form.  Writing moves the sign to the last of the new bytes, so the number
stays the same, and the shortest form of a number depends on nothing else.

Only the way to a length is checked: it must not be longer than elements may be,
nor shorter than the number needs.  The way back is bounded as operands are.
-/

variable {vm : Interpreter} {machine : Machine} {raw : Bytes} {rest : List Bytes}

/-- Below the element that names the size, the number of an element is written with
this size, and brought back into its shortest form. -/
structure ConvertsExactly (vm : Interpreter) (machine : Machine) (raw : Bytes) (rest : List Bytes)
    (size : Int) : Prop where
  succeeds : (∃ after, vm.splice .numToBin machine = .ok () after) ↔
    (0 ≤ size ∧ size ≤ vm.maxElementSize) ∧ (ScriptNumber.minimize raw).length ≤ size
  outside : ¬ (0 ≤ size ∧ size ≤ vm.maxElementSize) ->
    (vm.splice .numToBin).StopsWith machine .pushSize
  tooShort : 0 ≤ size ∧ size ≤ vm.maxElementSize -> size < (ScriptNumber.minimize raw).length ->
    (vm.splice .numToBin).StopsWith machine .impossibleEncoding
  written : forall after, vm.splice .numToBin machine = .ok () after -> ∃ element cost,
    after = { machine with stack := element :: rest, metrics.opCost := cost } ∧
      element.length = size ∧ ScriptNumber.value element = ScriptNumber.value raw
  back : forall after, vm.splice .numToBin machine = .ok () after ->
    (ScriptNumber.minimize raw).length ≤ vm.numberBounds.operandSize ->
      ∃ cost, vm.splice .binToNum after =
        .ok () { machine with stack := ScriptNumber.minimize raw :: rest, metrics.opCost := cost }
  /-- The way back is bounded as operands are. -/
  backTooLong : forall after, vm.splice .numToBin machine = .ok () after ->
    vm.numberBounds.operandSize < (ScriptNumber.minimize raw).length ->
      (vm.splice .binToNum).StopsWith after .invalidNumberRange

/-- As far as writing goes, the element is read as this size. -/
def ReadsSize (vm : Interpreter) (element : Bytes) (size : Int) : Prop :=
  ∃ number, vm.ReadsNumber element number ∧
    (0 ≤ ScriptNumber.clamp number ∧ ScriptNumber.clamp number ≤ vm.maxElementSize ↔
      0 ≤ size ∧ size ≤ vm.maxElementSize) ∧
    (0 ≤ size ∧ size ≤ vm.maxElementSize -> ScriptNumber.clamp number = size)

/-- Sizes are read as signed words.  Numbers that are such words are read as they are,
and others are above every limit that is below the greatest word. -/
private theorem readsSize_of_words {element : Bytes} {number : Int}
    (reads : vm.ReadsNumber element number)
    (words : number ≤ ScriptNumber.maxWord ∨ vm.maxElementSize < ScriptNumber.maxWord) :
    vm.ReadsSize element number := by
  refine ⟨number, reads, ?_⟩
  unfold ScriptNumber.maxWord at words
  unfold ScriptNumber.clamp ScriptNumber.minWord ScriptNumber.maxWord
  split
  · omega
  · split
    · omega
    · omega

/-! ## The two ways -/

/-- The number of the element is written with exactly the given size. -/
private theorem numToBin_of_reads {sizeElement : Bytes} {size : Int}
    (found : machine.stack = sizeElement :: raw :: rest) (reads : vm.ReadsSize sizeElement size) :
    vm.numToBin machine =
      if ¬ (0 ≤ size ∧ size ≤ vm.maxElementSize) then .error .pushSize
        { machine with stack := raw :: rest }
      else if size < (ScriptNumber.minimize raw).length then .error .impossibleEncoding
        { machine with stack := rest }
      else vm.push (ScriptNumber.widen (ScriptNumber.minimize raw) size.toNat)
        { machine with stack := rest } := by
  rcases reads with ⟨number, reads, fits_iff, same⟩
  have enough : 2 ≤ machine.stack.length := by
    rw [found]
    exact Nat.le_add_left 2 _
  simp only [numToBin, Sequencing.throw_bind]
  rw [Sequencing.bind_of_ok (require_of_le enough),
    Sequencing.bind_of_ok (popIndex_of_reads found reads)]
  by_cases fits : 0 ≤ size ∧ size ≤ vm.maxElementSize
  · have popped : Step.pop { machine with stack := raw :: rest } =
        .ok raw { machine with stack := rest } :=
      Step.pop_eq_ok_iff.mpr ⟨rest, rfl, rfl⟩
    rw [same fits, if_neg (by omega), if_neg (not_not.mpr fits), Sequencing.bind_of_ok popped]
    by_cases short : size < (ScriptNumber.minimize raw).length
    · rw [if_pos (by omega), if_pos short]
      rfl
    · rw [if_neg (by omega), if_neg short]
  · rw [if_pos (by omega), if_pos fits]
    rfl

private theorem numToBin_eq_ok_iff {sizeElement : Bytes} {size : Int} {after : Machine}
    (found : machine.stack = sizeElement :: raw :: rest) (reads : vm.ReadsSize sizeElement size) :
    vm.numToBin machine = .ok () after ↔
      (0 ≤ size ∧ size ≤ vm.maxElementSize) ∧ (ScriptNumber.minimize raw).length ≤ size ∧
        vm.push (ScriptNumber.widen (ScriptNumber.minimize raw) size.toNat)
          { machine with stack := rest } = .ok () after := by
  rw [numToBin_of_reads found reads]
  by_cases fits : 0 ≤ size ∧ size ≤ vm.maxElementSize
  · rw [if_neg (not_not.mpr fits), and_iff_right fits]
    by_cases short : size < (ScriptNumber.minimize raw).length
    · rw [if_pos short]
      exact iff_of_false nofun fun permitted => absurd permitted.1 (Int.not_le.mpr short)
    · rw [if_neg short, and_iff_right (Int.not_lt.mp short)]
  · rw [if_pos fits]
    exact iff_of_false nofun fun permitted => fits permitted.1

/-- An element is brought into the shortest form of any element for the same number. -/
private theorem binToNum_of_value_eq (vm : Interpreter) (machine : Machine) (rest : List Bytes)
    (cost : Nat) {element : Bytes}
    (same : ScriptNumber.value element = ScriptNumber.value raw) :
    vm.binToNum { machine with stack := element :: rest, metrics.opCost := cost } =
      if (ScriptNumber.minimize raw).length > vm.numberBounds.operandSize then
        .error .invalidNumberRange { machine with stack := rest, metrics.opCost := cost }
      else vm.push (ScriptNumber.minimize raw)
        { machine with stack := rest, metrics.opCost := cost } := by
  simp only [binToNum, Sequencing.throw_bind]
  rw [Sequencing.bind_of_ok (Step.pop_eq_ok_iff.mpr ⟨rest, rfl, rfl⟩),
    ScriptNumber.minimize_congr same]
  split
  · rfl
  · rfl

private theorem convertsExactly_of_reads {sizeElement : Bytes} {size : Int}
    (found : machine.stack = sizeElement :: raw :: rest) (reads : vm.ReadsSize sizeElement size) :
    vm.ConvertsExactly machine raw rest size := by
  have ran := numToBin_of_reads found reads
  have written (after : Machine) (written : vm.numToBin machine = .ok () after) : ∃ element cost,
      after = { machine with stack := element :: rest, metrics.opCost := cost } ∧
        element.length = size ∧ ScriptNumber.value element = ScriptNumber.value raw := by
    rcases (numToBin_eq_ok_iff found reads).mp written with ⟨fits, enough, pushed⟩
    rcases exists_cost_of_push pushed with ⟨cost, rfl⟩
    refine ⟨_, cost, rfl, ?_,
      (ScriptNumber.value_widen _ _).trans (ScriptNumber.value_minimize raw)⟩
    rw [ScriptNumber.length_widen (by omega)]
    exact Int.toNat_of_nonneg fits.1
  refine ⟨⟨?_, ?_⟩, ?_, ?_, written, ?_, ?_⟩
  · rintro ⟨after, written⟩
    rcases (numToBin_eq_ok_iff found reads).mp written with ⟨fits, enough, _⟩
    exact ⟨fits, enough⟩
  · rintro ⟨fits, enough⟩
    exact ⟨_, (numToBin_eq_ok_iff found reads).mpr ⟨fits, enough, push_eq_ok_iff.mpr rfl⟩⟩
  · intro outside
    rw [if_pos outside] at ran
    exact ⟨_, ran⟩
  · intro fits short
    rw [if_neg (not_not.mpr fits), if_pos short] at ran
    exact ⟨_, ran⟩
  · intro after success short
    rcases written after success with ⟨element, cost, rfl, _, same⟩
    have read := (binToNum_of_value_eq vm machine rest cost same).trans
      (if_neg (Nat.not_lt_of_le short))
    exact ⟨_, read.trans (push_eq_ok_iff.mpr rfl)⟩
  · intro after success long
    rcases written after success with ⟨element, cost, rfl, _, same⟩
    exact ⟨_, (binToNum_of_value_eq vm machine rest cost same).trans (if_pos long)⟩

/-- Writing a number with a given length and reading it again keeps the number.  The
length is read as a signed word, which is the number itself whenever that is such a
word or the limit on elements is below the greatest one. -/
theorem numToBin_keepsNumber {sizeElement : Bytes} {number : Int}
    (found : machine.stack = sizeElement :: raw :: rest)
    (reads : vm.ReadsNumber sizeElement number) :
    vm.ConvertsExactly machine raw rest (ScriptNumber.clamp number) ∧
      (number ≤ ScriptNumber.maxWord ∨ vm.maxElementSize < ScriptNumber.maxWord ->
        vm.ConvertsExactly machine raw rest number) :=
  ⟨convertsExactly_of_reads found ⟨number, reads, Iff.rfl, fun _ => rfl⟩,
    fun words => convertsExactly_of_reads found (readsSize_of_words reads words)⟩

private def convertingInterpreter : Interpreter where
  rules := .ofFlags Rule.minimalData.publicMask
  verifier _ := .ok false

/-- Minus five with superfluous bytes in front of its sign, and the size six above it. -/
private def convertingMachine : Machine where
  stack := [[6], [0x05, 0x00, 0x00, 0x80], [7]]
  script := { bytes := [] }

/-- Minus five is written with six bytes, and back with one. -/
theorem numToBin_keepsNumber_minusFive :
    ∃ after, convertingInterpreter.splice .numToBin convertingMachine = .ok () after ∧
      (∃ element cost, after =
          { convertingMachine with stack := [element, [7]], metrics.opCost := cost } ∧
        element.length = (6 : Int) ∧ ScriptNumber.value element = -5) ∧
      ∃ cost, convertingInterpreter.splice .binToNum after =
        .ok () { convertingMachine with stack := [[0x85], [7]], metrics.opCost := cost } := by
  have found : convertingMachine.stack = [[6], [0x05, 0x00, 0x00, 0x80], [7]] := rfl
  have reads : convertingInterpreter.ReadsNumber [6] 6 := rfl
  have converts := (numToBin_keepsNumber found reads).2 (Or.inl (by decide))
  rcases converts.succeeds.mpr (by decide) with ⟨after, written⟩
  exact ⟨after, written, converts.written after written, converts.back after written (by decide)⟩

/-! ## The greatest limit -/

/-- An interpreter with the greatest limit on elements that is a signed word. -/
private def unrestrainedInterpreter : Interpreter where
  rules := .ofFlags Rule.may2025.publicMask
  limits := { may2025MaxElementSize := 0x7fffffffffffffff }
  verifier _ := .ok false

/-- The number one, and above it a size that is just too great for a signed word. -/
private def unrestrainedMachine : Machine where
  stack := [[0, 0, 0, 0, 0, 0, 0, 0x80, 0], [1]]
  script := { bytes := [] }

/-- The size is above this limit, and the number is written all the same.  What is read as
the size is the greatest word, which is the limit. -/
theorem numToBin_beyondWords :
    unrestrainedInterpreter.ReadsNumber [0, 0, 0, 0, 0, 0, 0, 0x80, 0] (ScriptNumber.maxWord + 1) ∧
      unrestrainedInterpreter.maxElementSize = ScriptNumber.maxWord ∧
      (∃ after, unrestrainedInterpreter.splice .numToBin unrestrainedMachine = .ok () after) ∧
      ¬ unrestrainedInterpreter.ConvertsExactly unrestrainedMachine [1] []
        (ScriptNumber.maxWord + 1) := by
  have reads : unrestrainedInterpreter.ReadsNumber [0, 0, 0, 0, 0, 0, 0, 0x80, 0]
      (ScriptNumber.maxWord + 1) := rfl
  have limit_eq : unrestrainedInterpreter.maxElementSize = ScriptNumber.maxWord := by decide
  have clamped : ScriptNumber.clamp (ScriptNumber.maxWord + 1) = ScriptNumber.maxWord := by decide
  have converts : unrestrainedInterpreter.ConvertsExactly unrestrainedMachine [1] []
      ScriptNumber.maxWord :=
    convertsExactly_of_reads rfl
      ⟨ScriptNumber.maxWord + 1, reads, by rw [clamped], fun _ => clamped⟩
  have shortest : (ScriptNumber.minimize [1]).length = 1 := by decide
  have written : ∃ after,
      unrestrainedInterpreter.splice .numToBin unrestrainedMachine = .ok () after := by
    apply converts.succeeds.mpr
    rw [limit_eq, shortest]
    decide
  refine ⟨reads, limit_eq, written, fun unclamped => ?_⟩
  have fits := (unclamped.succeeds.mp written).1.2
  rw [limit_eq] at fits
  exact absurd fits (by decide)

end Interpreter
end SpendRules

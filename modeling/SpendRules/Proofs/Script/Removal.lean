import SpendRules.Machine.SignatureChecks
import SpendRules.Proofs.Script.Building

namespace SpendRules

/-!
# What is left of a script

Taking a byte string out of a script is a scan of its bytes, and taking out the
separators copies the segments between them.  Both look at instructions only to
find out where they may begin.  What they leave is nevertheless told by the
instructions: some of them, in their order, and the tail.

This rests on instructions that say where they end.  What is left then falls into
the instructions that were kept, so that removals can be repeated and exchanged.
A push is removed like this as long as its length field can hold the length of
its data.
-/

/-- The instruction is a separator. -/
def Instruction.isSeparator (instruction : Instruction) : Bool :=
  instruction.opcode == Opcode.codeSeparator

namespace Script

/-- The script with some of its instructions, and with its tail. -/
def filter (script : Script) (kept : Instruction -> Bool) : Script :=
  { bytes := (script.instructions.filter kept).flatMap Instruction.bytes ++ script.layout.tail }

variable {script : Script}

/-- The instructions that were kept are those of the script that is left. -/
theorem layout_filter (kept : Instruction -> Bool) :
    (script.filter kept).layout =
      { instructions := script.instructions.filter kept, tail := script.layout.tail } := by
  rcases script.layout_spec with ⟨_, complete, stuck⟩
  exact layout_eq_iff.mpr
    ⟨rfl, fun instruction member => complete instruction (List.mem_filter.mp member).1, stuck⟩

theorem filter_filter (kept kept' : Instruction -> Bool) :
    (script.filter kept).filter kept' = script.filter fun instruction =>
      kept' instruction && kept instruction := by
  rw [filter, instructions, layout_filter, List.filter_filter]
  rfl

theorem filter_eq_self {kept : Instruction -> Bool}
    (all : forall instruction, instruction ∈ script.instructions -> kept instruction = true) :
    script.filter kept = script := by
  rw [filter, List.filter_eq_self.mpr all, ← script.layout_spec.1]

theorem isWellFormed_filter (kept : Instruction -> Bool) :
    (script.filter kept).isWellFormed = script.isWellFormed := by
  rw [isWellFormed, layout_filter, isWellFormed]

theorem filter_of_split {bytes rest : Bytes} {first : Instruction} (kept : Instruction -> Bool)
    (split : Instruction.split? bytes = some (first, rest)) :
    (filter { bytes := bytes } kept).bytes =
      (if kept first then first.bytes else []) ++ (filter { bytes := rest } kept).bytes := by
  rw [filter, filter, instructions_of_split split, layout_of_split split]
  by_cases keeps : kept first = true
  · rw [List.filter_cons_of_pos keeps, if_pos keeps, List.flatMap_cons, List.append_assoc]
  · rw [List.filter_cons_of_neg keeps, if_neg keeps, List.nil_append]

theorem filter_of_stuck {bytes : Bytes} (kept : Instruction -> Bool)
    (stuck : Instruction.split? bytes = none) :
    (filter { bytes := bytes } kept).bytes = bytes := by
  rw [filter, instructions, layout_of_stuck stuck]
  rfl

/-! ## Taking out a byte string -/

section

variable {needle bytes : Bytes} (nonempty : needle ≠ []) (kept : Bytes)

private theorem removeOnto_of_starts (starts : needle.isPrefixOf bytes = true) :
    removeOnto needle nonempty bytes kept =
      removeOnto needle nonempty (bytes.drop needle.length) kept := by
  rw [removeOnto, dif_pos starts]

private theorem removeOnto_of_split {first : Instruction} {rest : Bytes}
    (absent : ¬ needle.isPrefixOf bytes = true)
    (split : Instruction.split? bytes = some (first, rest)) :
    removeOnto needle nonempty bytes kept =
      removeOnto needle nonempty rest (first.bytes.reverseAux kept) := by
  rw [removeOnto, dif_neg absent]
  split
  · next found =>
      rw [split] at found
      cases found
      rfl
  · next found =>
      rw [split] at found
      cases found

private theorem removeOnto_of_stuck (absent : ¬ needle.isPrefixOf bytes = true)
    (stuck : Instruction.split? bytes = none) :
    removeOnto needle nonempty bytes kept = kept.reverse ++ bytes := by
  rw [removeOnto, dif_neg absent]
  split
  · next found =>
      rw [stuck] at found
      cases found
  · rfl

end

/-- Wherever the needle starts in the bytes, it is the instruction that is split
off there. -/
def IsAligned (needle bytes : Bytes) : Prop :=
  forall suffix : Bytes, suffix.length ≤ bytes.length -> needle <+: suffix ->
    ∃ first rest, Instruction.split? suffix = some (first, rest) ∧ first.bytes = needle

/-- The scan then finds the needle exactly where it is an instruction of the
script. -/
private theorem removeOnto_eq {needle bytes : Bytes} (nonempty : needle ≠ [])
    (aligned : IsAligned needle bytes) (kept : Bytes) :
    removeOnto needle nonempty bytes kept =
      kept.reverse ++
        (filter { bytes := bytes } fun instruction => instruction.bytes != needle).bytes := by
  induction bytes using split_induction generalizing kept with
  | stuck bytes stuck =>
      have absent : ¬ needle.isPrefixOf bytes = true := by
        intro starts
        rcases aligned bytes (Nat.le_refl _) (List.isPrefixOf_iff_prefix.mp starts) with
          ⟨_, _, split, _⟩
        cases stuck.symm.trans split
      rw [removeOnto_of_stuck nonempty kept absent stuck, filter_of_stuck _ stuck]
  | step bytes first rest split inductionHypothesis =>
      have shorter := Nat.le_of_lt (Instruction.length_rest_lt split)
      have below := inductionHypothesis fun suffix short =>
        aligned suffix (Nat.le_trans short shorter)
      rw [filter_of_split _ split]
      by_cases same : first.bytes = needle
      · have whole : bytes = needle ++ rest := same ▸ Instruction.split_append split
        have starts : needle.isPrefixOf bytes = true :=
          List.isPrefixOf_iff_prefix.mpr ⟨rest, whole.symm⟩
        rw [removeOnto_of_starts nonempty kept starts, whole, List.drop_left, below,
          if_neg (ne_true_of_eq_false (bne_eq_false_iff_eq.mpr same)), List.nil_append]
      · have absent : ¬ needle.isPrefixOf bytes = true := by
          intro starts
          rcases aligned bytes (Nat.le_refl _) (List.isPrefixOf_iff_prefix.mp starts) with
            ⟨_, _, found, found_same⟩
          cases split.symm.trans found
          exact same found_same
        rw [removeOnto_of_split nonempty kept absent split, below, if_pos (bne_iff_ne.mpr same),
          List.reverseAux_eq, List.reverse_append, List.reverse_reverse, List.append_assoc]

/-- What is longer than the bytes does not start anywhere in them. -/
private theorem isAligned_of_longer {needle bytes : Bytes} (longer : bytes.length < needle.length) :
    IsAligned needle bytes := by
  rintro suffix within ⟨rest, rfl⟩
  rw [List.length_append] at within
  omega

theorem findAndDelete_eq_filter {needle : Bytes} (nonempty : needle ≠ [])
    (aligned : IsAligned needle script.bytes) :
    script.findAndDelete needle = script.filter fun instruction => instruction.bytes != needle := by
  rw [findAndDelete, dif_pos nonempty, removeOnto_eq nonempty aligned]
  rfl

/-! ## Pushes -/

theorem pushOf_ne_nil (data : Bytes) : pushOf data ≠ [] := by
  unfold pushOf
  dsimp only
  split
  · exact List.cons_ne_nil _ _
  split
  · exact List.cons_ne_nil _ _
  split
  all_goals exact List.cons_ne_nil _ _

/-- A push is taken out as the instruction that it is, or else it is longer than the
script. -/
theorem findAndDelete_pushOf {data : Bytes}
    (fits : data.length < 2 ^ 32 ∨ script.bytes.length < (pushOf data).length) :
    script.findAndDelete (pushOf data) =
      script.filter fun instruction => instruction.bytes != pushOf data := by
  refine findAndDelete_eq_filter (pushOf_ne_nil data) ?_
  rcases fits with short | longer
  · rintro suffix _ ⟨rest, rfl⟩
    have same := bytes_pushInstruction data
    exact ⟨pushInstruction data, rest, same ▸ isComplete_pushInstruction short rest, same⟩
  · exact isAligned_of_longer longer

/-! ## Separators -/

/-- A separator is an instruction of one byte. -/
private theorem bytes_of_separator {instruction : Instruction} (complete : instruction.IsComplete)
    (separator : instruction.isSeparator = true) : instruction.bytes = [Opcode.codeSeparator] := by
  have split := complete []
  rw [Instruction.bytes, eq_of_beq separator, List.cons_append,
    Instruction.split_plain _ (by decide) (by decide)] at split
  cases split
  rfl

/-- The segments that are copied are made up of the instructions between the
separators. -/
private theorem copySegments_eq (segment rest kept : Bytes) (instructions : List Instruction) :
    copySegments (segment ++ (instructions.flatMap Instruction.bytes ++ rest)) segment.length kept
        instructions =
      kept.reverse ++ (segment ++
        ((instructions.filter (!·.isSeparator)).flatMap Instruction.bytes ++ rest)) := by
  induction instructions generalizing segment kept with
  | nil => rfl
  | cons instruction instructions inductionHypothesis =>
      -- A separator ends the segment and starts an empty one; any other instruction is
      -- added to the segment.
      have passed : segment.length + instruction.size = (segment ++ instruction.bytes).length := by
        rw [List.length_append, Instruction.length_bytes]
      rw [copySegments, passed, List.flatMap_cons, List.append_assoc, ← List.append_assoc segment,
        List.filter_cons]
      by_cases separator : instruction.opcode = Opcode.codeSeparator
      · have taken : instruction.isSeparator = true := beq_iff_eq.mpr separator
        have copied := inductionHypothesis [] (segment.reverseAux kept)
        rw [if_pos separator, List.drop_left, List.append_assoc, List.take_left, taken]
        rwa [List.reverseAux_eq, List.reverse_append, List.reverse_reverse, List.append_assoc,
          ← List.reverseAux_eq] at copied
      · have stays : instruction.isSeparator = false := beq_eq_false_iff_ne.mpr separator
        rw [if_neg separator, inductionHypothesis, stays, Bool.not_false, if_pos rfl,
          List.flatMap_cons, List.append_assoc, List.append_assoc]

theorem withoutCodeSeparators_eq_filter :
    script.withoutCodeSeparators = script.filter (!·.isSeparator) := by
  have copied := copySegments_eq [] script.layout.tail [] script.instructions
  rw [List.nil_append, ← script.layout_spec.1] at copied
  rw [withoutCodeSeparators, filter]
  exact congrArg Script.mk copied

private theorem length_separators {instructions : List Instruction}
    (complete : forall instruction, instruction ∈ instructions -> instruction.IsComplete) :
    ((instructions.filter (!·.isSeparator)).flatMap Instruction.bytes).length +
        instructions.countP Instruction.isSeparator =
          (instructions.flatMap Instruction.bytes).length := by
  induction instructions with
  | nil => rfl
  | cons instruction instructions inductionHypothesis =>
      have below := inductionHypothesis fun other member =>
        complete other (List.mem_cons_of_mem instruction member)
      rw [List.flatMap_cons, List.length_append, ← below, List.filter_cons, List.countP_cons]
      cases separator : instruction.isSeparator with
      | true =>
          rw [bytes_of_separator (complete instruction List.mem_cons_self) separator, Bool.not_true,
            if_neg Bool.false_ne_true, if_pos rfl, List.length_singleton]
          omega
      | false =>
          rw [Bool.not_false, if_pos rfl, if_neg Bool.false_ne_true, List.flatMap_cons,
            List.length_append]
          omega

/-- Every separator that is taken out is one byte. -/
theorem length_withoutCodeSeparators (script : Script) :
    script.withoutCodeSeparators.bytes.length + script.instructions.countP Instruction.isSeparator =
      script.bytes.length := by
  rcases script.layout_spec with ⟨whole, complete, _⟩
  have counted := length_separators complete
  rw [withoutCodeSeparators_eq_filter, filter, whole, List.length_append, List.length_append]
  omega

/-- Taking out the separators leaves the other instructions and the tail.  So it
makes a script shorter by their number, it makes no difference to do it again,
and the script is as well formed as before.  It can be exchanged with taking out
a push, if a length field can hold the length of the data or the push is longer than
the script. -/
theorem withoutCodeSeparators_spec (script : Script) :
    script.withoutCodeSeparators.bytes =
        (script.instructions.filter (!·.isSeparator)).flatMap Instruction.bytes ++
          script.layout.tail ∧
      script.withoutCodeSeparators.bytes.length +
        script.instructions.countP Instruction.isSeparator =
        script.bytes.length ∧
      script.withoutCodeSeparators.withoutCodeSeparators = script.withoutCodeSeparators ∧
      script.withoutCodeSeparators.isWellFormed = script.isWellFormed ∧
      (forall data : Bytes, data.length < 2 ^ 32 ∨ script.bytes.length < (pushOf data).length ->
        script.withoutCodeSeparators.findAndDelete (pushOf data) =
          (script.findAndDelete (pushOf data)).withoutCodeSeparators) := by
  have shorter := length_withoutCodeSeparators script
  refine ⟨?_, shorter, ?_, ?_, ?_⟩
  · rw [withoutCodeSeparators_eq_filter, filter]
  · rw [withoutCodeSeparators_eq_filter, withoutCodeSeparators_eq_filter, filter_filter]
    simp only [Bool.and_self]
  · rw [withoutCodeSeparators_eq_filter, isWellFormed_filter]
  · intro data fits
    have fitsStill : data.length < 2 ^ 32 ∨
        script.withoutCodeSeparators.bytes.length < (pushOf data).length :=
      fits.imp_right fun longer => by omega
    rw [findAndDelete_pushOf fitsStill, findAndDelete_pushOf fits, withoutCodeSeparators_eq_filter,
      withoutCodeSeparators_eq_filter, filter_filter, filter_filter]
    congr
    funext instruction
    exact Bool.and_comm _ _

/-- Between separators, `0xab` is also pushed.  The last push is cut off. -/
private def separatedPushes : Script where
  bytes := [0xab, 0x02, 0xab, 0xab, 0xab, 0x51, 0x01, 0xab, 0xab, 0x4c, 0x02, 0xab]

/-- The separators are taken out, and the push with or without them. -/
theorem withoutCodeSeparators_separatedPushes :
    separatedPushes.withoutCodeSeparators.bytes =
        [0x02, 0xab, 0xab, 0x51, 0x01, 0xab, 0x4c, 0x02, 0xab] ∧
      separatedPushes.withoutCodeSeparators.findAndDelete (pushOf [0xab]) =
        (separatedPushes.findAndDelete (pushOf [0xab])).withoutCodeSeparators := by
  rcases withoutCodeSeparators_spec separatedPushes with ⟨left, _, _, _, exchanged⟩
  refine ⟨?_, exchanged [0xab] (.inl (by decide))⟩
  rw [left]
  decide +kernel

/-! ### Data that no length field can announce -/

/-- The push of no data with the longest length field. -/
private def longestEmptyPush : Instruction where
  opcode := Opcode.pushDataFour
  lengthField := [0, 0, 0, 0]
  data := some []

private def separator : Instruction where
  opcode := Opcode.codeSeparator
  lengthField := []
  data := none

/-- Separators are what they seem to be behind a push that has no data. -/
private theorem layout_separators (count : Nat) :
    Script.layout { bytes := longestEmptyPush.bytes ++ List.replicate count Opcode.codeSeparator } =
      { instructions := longestEmptyPush :: List.replicate count separator, tail := [] } := by
  refine layout_eq_iff.mpr ⟨?_, ?_, rfl⟩
  · have bytes_eq : separator.bytes = [Opcode.codeSeparator] := rfl
    rw [List.flatMap_cons, List.flatMap_replicate, bytes_eq, List.flatten_replicate_singleton,
      List.append_nil]
  · intro instruction member
    rcases List.mem_cons.mp member with rfl | member
    · have whole : Instruction.split? longestEmptyPush.bytes =
          some (longestEmptyPush, []) := by decide
      exact Instruction.isComplete_of_split whole
    · have whole : Instruction.split? separator.bytes = some (separator, []) := by decide
      rw [List.eq_of_mem_replicate member]
      exact Instruction.isComplete_of_split whole

private theorem withoutCodeSeparators_separators (count : Nat) :
    withoutCodeSeparators
        { bytes := longestEmptyPush.bytes ++ List.replicate count Opcode.codeSeparator } =
      { bytes := longestEmptyPush.bytes } := by
  have none_left : (List.replicate count separator).filter (!·.isSeparator) = [] := by
    apply List.filter_replicate_of_neg
    decide
  rw [withoutCodeSeparators_eq_filter, filter, instructions, layout_separators]
  dsimp only
  rw [List.filter_cons_of_pos (by decide), none_left, List.flatMap_singleton, List.append_nil]

/-- No instruction of a script is as long as something that is longer than the script. -/
private theorem findAndDelete_of_longer {needle : Bytes} (nonempty : needle ≠ [])
    (longer : script.bytes.length < needle.length) : script.findAndDelete needle = script := by
  rw [findAndDelete_eq_filter nonempty (isAligned_of_longer longer)]
  refine filter_eq_self fun instruction member => bne_iff_ne.mpr fun same => ?_
  have inside : instruction.bytes.length ≤
      (script.instructions.flatMap Instruction.bytes).length :=
    (List.infix_of_mem_flatten (List.mem_map_of_mem member)).length_le
  have whole := congrArg List.length script.layout_spec.1
  rw [List.length_append] at whole
  rw [same] at inside
  exact Nat.lt_irrefl _ (Nat.lt_of_lt_of_le longer (by omega))

/-- A script that is the byte string to be taken out leaves nothing. -/
private theorem findAndDelete_self {needle : Bytes} (nonempty : needle ≠ []) :
    Script.findAndDelete { bytes := needle } needle = { bytes := [] } := by
  have starts : needle.isPrefixOf needle = true :=
    List.isPrefixOf_iff_prefix.mpr (List.prefix_refl needle)
  have absent : ¬ needle.isPrefixOf [] = true := fun starts =>
    nonempty (List.prefix_nil.mp (List.isPrefixOf_iff_prefix.mp starts))
  rw [findAndDelete, dif_pos nonempty, removeOnto_of_starts nonempty [] starts, List.drop_length,
    removeOnto_of_stuck nonempty [] absent rfl, List.reverse_nil, List.nil_append]

/-- So many bytes of separators that a length field of four bytes has zero for their number. -/
private def manySeparators : Bytes :=
  List.replicate (2 ^ 32) Opcode.codeSeparator

private theorem pushOf_manySeparators :
    pushOf manySeparators = longestEmptyPush.bytes ++ manySeparators := by
  have length_eq : manySeparators.length = 2 ^ 32 := List.length_replicate
  rw [pushOf, length_eq]
  rfl

/-- Without the bound on the data, the order makes a difference.  Of the push of 4 GiB of
separators, which announces no data, the separators can be taken out first.  Then the
push is no longer found. -/
theorem withoutCodeSeparators_not_exchanged :
    (withoutCodeSeparators { bytes := pushOf manySeparators }).findAndDelete
        (pushOf manySeparators) = { bytes := [0x4e, 0, 0, 0, 0] } ∧
      (findAndDelete { bytes := pushOf manySeparators }
        (pushOf manySeparators)).withoutCodeSeparators = { bytes := [] } := by
  constructor
  · have longer : longestEmptyPush.bytes.length < (pushOf manySeparators).length := by
      rw [pushOf_manySeparators, List.length_append, manySeparators, List.length_replicate]
      omega
    have left : withoutCodeSeparators { bytes := pushOf manySeparators } =
        { bytes := longestEmptyPush.bytes } := by
      rw [pushOf_manySeparators]
      exact withoutCodeSeparators_separators _
    have kept : findAndDelete { bytes := longestEmptyPush.bytes } (pushOf manySeparators) = _ :=
      findAndDelete_of_longer (pushOf_ne_nil _) longer
    rw [left, kept]
    rfl
  · rw [findAndDelete_self (pushOf_ne_nil _), withoutCodeSeparators_eq_filter]
    exact filter_eq_self fun instruction member => by
      rw [instructions_nil] at member
      cases member

end Script

/-! ## Signatures -/

namespace Interpreter

variable {vm : Interpreter}

/-- The instruction stays in the code of the signature.  It is no push of the
signature, or nothing is taken out for a signature of the newer composition. -/
def keepsInstruction (vm : Interpreter) (instruction : Instruction) (signature : Bytes) : Bool :=
  (vm.enables .forkId && (SigHashType.ofSignature? signature).any SigHashType.hasForkId) ||
    instruction.bytes != Script.pushOf signature

theorem withoutSignature_eq_filter {code : Script} {signature : Bytes}
    (short : signature.length < 2 ^ 32) :
    vm.withoutSignature code signature = code.filter fun instruction =>
      vm.keepsInstruction instruction signature := by
  unfold withoutSignature keepsInstruction
  dsimp only
  cases vm.enables .forkId && (SigHashType.ofSignature? signature).any SigHashType.hasForkId with
  | true => exact (Script.filter_eq_self fun _ _ => rfl).symm
  | false =>
      simp only [Bool.false_eq_true, if_false, Bool.false_or]
      exact Script.findAndDelete_pushOf (.inl short)

/-- An instruction stays in the code of several signatures, when it stays in the
code of each. -/
theorem foldl_withoutSignature {code : Script} {signatures : List Bytes}
    (short : forall signature, signature ∈ signatures -> signature.length < 2 ^ 32) :
    signatures.foldl vm.withoutSignature code =
      code.filter fun instruction => signatures.all (vm.keepsInstruction instruction) := by
  induction signatures generalizing code with
  | nil => exact (Script.filter_eq_self fun _ _ => rfl).symm
  | cons signature signatures inductionHypothesis =>
      rw [List.foldl_cons, withoutSignature_eq_filter (short signature List.mem_cons_self),
        inductionHypothesis fun other member => short other (List.mem_cons_of_mem signature member),
        Script.filter_filter]
      congr
      funext instruction
      rw [List.all_cons, Bool.and_comm]

end Interpreter

namespace Script

/-- Taking out the push of a signature leaves the other instructions and the
tail.  So it makes no difference to do it again, no push of the signature is
left, and for several signatures the order does not matter. -/
theorem findAndDelete_pushOf_spec {signature : Bytes} (short : signature.length < 2 ^ 32) :
    (script.findAndDelete (pushOf signature)).bytes =
        (script.instructions.filter fun instruction =>
          instruction.bytes != pushOf signature).flatMap Instruction.bytes ++
          script.layout.tail ∧
      (script.findAndDelete (pushOf signature)).findAndDelete (pushOf signature) =
        script.findAndDelete (pushOf signature) ∧
      (forall instruction, instruction ∈ (script.findAndDelete (pushOf signature)).instructions ->
        instruction.bytes ≠ pushOf signature) ∧
      (forall (vm : Interpreter) (signatures reordered : List Bytes),
        (forall signature, signature ∈ signatures -> signature.length < 2 ^ 32) ->
          signatures.Perm reordered ->
          signatures.foldl vm.withoutSignature script =
            reordered.foldl vm.withoutSignature script) := by
  rw [findAndDelete_pushOf (.inl short), findAndDelete_pushOf (.inl short)]
  refine ⟨rfl, ?_, ?_, ?_⟩
  · rw [filter_filter]
    simp only [Bool.and_self]
  · intro instruction member
    rw [instructions, layout_filter] at member
    exact bne_iff_ne.mp (List.mem_filter.mp member).2
  · intro vm signatures reordered short order
    rw [Interpreter.foldl_withoutSignature short,
      Interpreter.foldl_withoutSignature
        fun signature member => short signature (order.mem_iff.mpr member)]
    congr
    funext instruction
    exact order.all_eq

/-- A push of `0xaa` stands twice in this script, once within the data of another
push, and once more with a longer opcode.  The last push is cut off. -/
private def repeatedPush : Script where
  bytes := [0x01, 0xaa, 0x01, 0xaa, 0x51, 0x03, 0x01, 0xaa, 0x02, 0x4c, 0x01, 0xaa,
    0x05, 0x01, 0xaa]

/-- An interpreter of the older rules. -/
private def removingInterpreter : Interpreter where
  rules := .ofFlags 0
  verifier _ := .ok false

/-- The two pushes are taken out.  An empty signature can be taken out before or
after them. -/
theorem findAndDelete_repeatedPush :
    (repeatedPush.findAndDelete (pushOf [0xaa])).bytes =
        [0x51, 0x03, 0x01, 0xaa, 0x02, 0x4c, 0x01, 0xaa, 0x05, 0x01, 0xaa] ∧
      [[0xaa], []].foldl removingInterpreter.withoutSignature repeatedPush =
        [[], [0xaa]].foldl removingInterpreter.withoutSignature repeatedPush := by
  have short : forall signature, signature ∈ [[0xaa], ([] : Bytes)] ->
      signature.length < 2 ^ 32 := by decide
  rcases findAndDelete_pushOf_spec (short [0xaa] (by decide)) with
    ⟨left, _, _, reordered⟩
  refine ⟨?_, reordered removingInterpreter _ _ short (.swap _ _ [])⟩
  rw [left]
  decide +kernel

end Script
end SpendRules

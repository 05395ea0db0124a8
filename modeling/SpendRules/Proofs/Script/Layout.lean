import SpendRules.Proofs.Codec.Spelling
import SpendRules.Script.Template

namespace SpendRules

/-!
# Cutting scripts into instructions

A script is laid out from its start: its first instruction, then the layout of
the bytes behind it.  The layout keeps what it has found in reverse order on
the way, so this is first stated for any instructions found before.

Scripts of a known shape are then laid out by splitting off one instruction
after another.
-/

namespace Opcode

/-- Short lengths are opcodes that push data of this length. -/
theorem ofNat_le_pushBytesMax {length : Nat} (short : length ≤ 75) :
    UInt8.ofNat length ≤ pushBytesMax := by
  rw [UInt8.le_iff_toNat_le, UInt8.toNat_ofNat']
  exact Nat.le_trans (Nat.mod_le _ _) short

/-- All operations but two are those of opcodes with a mnemonic. -/
theorem exists_entry_of_operation {opcode : UInt8} {op : Operation} (same : operation opcode = op)
    (noPush : op ≠ .pushData) (valid : op ≠ .invalid) :
    ∃ row, row ∈ table ∧ row.code = opcode ∧ row.operation = op := by
  unfold operation at same
  split at same
  · exact absurd same.symm noPush
  split at same
  · rename_i row found
    unfold entry? at found
    have code := List.find?_some found
    exact ⟨row, List.mem_of_find?_eq_some found, eq_of_beq code, same⟩
  · exact absurd same.symm valid

theorem operation_of_direct {opcode : UInt8} (direct : opcode ≤ pushBytesMax) :
    operation opcode = .pushData :=
  if_pos (UInt8.le_trans direct (by decide))

end Opcode

namespace Instruction

/-- An opcode that is the length of its data is followed by that data. -/
theorem split_directPush {opcode : UInt8} {data : Bytes} (rest : Bytes)
    (direct : opcode ≤ Opcode.pushBytesMax) (length_eq : data.length = opcode.toNat) :
    split? (opcode :: (data ++ rest)) =
      some ({ opcode := opcode, lengthField := [], data := some data }, rest) := by
  rw [split?, if_pos direct, Bytes.splitExactly_eq_some_iff.mpr ⟨rfl, length_eq⟩]

/-- An opcode that announces no data is an instruction by itself. -/
theorem split_plain {opcode : UInt8} (rest : Bytes) (indirect : ¬ opcode ≤ Opcode.pushBytesMax)
    (unannounced : lengthWidth? opcode = none) :
    split? (opcode :: rest) =
      some ({ opcode := opcode, lengthField := [], data := none }, rest) := by
  rw [split?, if_neg indirect, unannounced]

/-- An opcode that announces a length is followed by this length and as much
data. -/
theorem split_announced {opcode : UInt8} {width : Nat} {lengthField data : Bytes} (rest : Bytes)
    (indirect : ¬ opcode ≤ Opcode.pushBytesMax) (announced : lengthWidth? opcode = some width)
    (width_eq : lengthField.length = width) (length_eq : data.length = lengthField.toNatLE) :
    split? (opcode :: (lengthField ++ (data ++ rest))) =
      some ({ opcode := opcode, lengthField := lengthField, data := some data }, rest) := by
  rw [split?, if_neg indirect, announced]
  dsimp only
  rw [Bytes.splitExactly_eq_some_iff.mpr ⟨rfl, width_eq⟩]
  dsimp only
  rw [Bytes.splitExactly_eq_some_iff.mpr ⟨rfl, length_eq⟩]

/-- The instruction is split off whatever follows it: its bytes say where they
end. -/
def IsComplete (instruction : Instruction) : Prop :=
  forall rest, split? (instruction.bytes ++ rest) = some (instruction, rest)

/-- What is split off once is split off whatever follows it. -/
theorem isComplete_of_split {whole behind : Bytes} {instruction : Instruction}
    (split : split? whole = some (instruction, behind)) : instruction.IsComplete := by
  intro rest
  unfold split? at split
  split at split
  · cases split
  next opcode afterOpcode =>
    by_cases direct : opcode ≤ Opcode.pushBytesMax
    · rw [if_pos direct] at split
      split at split
      · next data afterData taken =>
          cases split
          exact split_directPush rest direct (Bytes.splitExactly_eq_some_iff.mp taken).2
      · cases split
    rw [if_neg direct] at split
    split at split
    · next unannounced =>
        cases split
        exact split_plain rest direct unannounced
    next width announced =>
      split at split
      · cases split
      next lengthField afterLength lengthTaken =>
        split at split
        · next data afterData dataTaken =>
            cases split
            rw [bytes, List.cons_append, List.append_assoc]
            exact split_announced rest direct announced
              (Bytes.splitExactly_eq_some_iff.mp lengthTaken).2
              (Bytes.splitExactly_eq_some_iff.mp dataTaken).2
        · cases split

end Instruction

namespace Script

private theorem layoutOnto_eq (bytes : Bytes) (found : List Instruction) :
    layoutOnto bytes found =
      { instructions := found.reverse ++ (layoutOnto bytes []).instructions
        tail := (layoutOnto bytes []).tail } := by
  -- What is found after `found` does not depend on it, so the length of what is left is all
  -- that matters.
  induction length_eq : bytes.length using Nat.strongRecOn generalizing bytes found with
  | ind length inductionHypothesis =>
      subst length_eq
      rw [layoutOnto, layoutOnto.eq_def bytes []]
      split
      · next instruction rest split =>
          have shorter := Instruction.length_rest_lt split
          rw [inductionHypothesis _ shorter rest (instruction :: found) rfl,
            inductionHypothesis _ shorter rest [instruction] rfl]
          simp
      · simp

/-- The layout of a script is its first instruction and the layout of the bytes
behind it. -/
theorem layout_of_split {bytes rest : Bytes} {first : Instruction}
    (split : Instruction.split? bytes = some (first, rest)) :
    Script.layout { bytes := bytes } =
      { instructions := first :: Script.instructions { bytes := rest }
        tail := (Script.layout { bytes := rest }).tail } := by
  unfold layout
  rw [layoutOnto]
  split
  · next instruction behind found =>
      rw [split] at found
      cases found
      rw [layoutOnto_eq]
      rfl
  · next absent =>
      rw [split] at absent
      cases absent

theorem instructions_of_split {bytes rest : Bytes} {first : Instruction}
    (split : Instruction.split? bytes = some (first, rest)) :
    Script.instructions { bytes := bytes } = first :: Script.instructions { bytes := rest } :=
  congrArg Layout.instructions (layout_of_split split)

theorem instructions_nil : Script.instructions { bytes := [] } = [] := by
  rw [instructions, layout, layoutOnto]
  rfl

/-- Bytes of which no instruction can be split off are all tail. -/
theorem layout_of_stuck {bytes : Bytes} (stuck : Instruction.split? bytes = none) :
    Script.layout { bytes := bytes } = { instructions := [], tail := bytes } := by
  unfold layout
  rw [layoutOnto]
  split
  · next found =>
      rw [stuck] at found
      cases found
  · rfl

/-- Induction along the instructions of a byte string: what holds of a tail, and
behind every instruction that is put in front, holds of all byte strings. -/
theorem split_induction {motive : Bytes -> Prop}
    (stuck : forall bytes, Instruction.split? bytes = none -> motive bytes)
    (step : forall bytes first rest, Instruction.split? bytes = some (first, rest) -> motive rest ->
      motive bytes)
    (bytes : Bytes) : motive bytes := by
  induction length_eq : bytes.length using Nat.strongRecOn generalizing bytes with
  | ind length inductionHypothesis =>
      subst length_eq
      cases split : Instruction.split? bytes with
      | none => exact stuck bytes split
      | some found =>
          exact step bytes found.1 found.2 split
            (inductionHypothesis _ (Instruction.length_rest_lt split) found.2 rfl)

/-- There is one way to cut a byte string into complete instructions and a tail of
which none can be split off, and that is its layout. -/
theorem layout_eq_iff {script : Script} {instructions : List Instruction} {tail : Bytes} :
    script.layout = { instructions := instructions, tail := tail } ↔
      script.bytes = instructions.flatMap Instruction.bytes ++ tail ∧
        (forall instruction, instruction ∈ instructions -> instruction.IsComplete) ∧
          Instruction.split? tail = none := by
  rcases script with ⟨bytes⟩
  induction bytes using split_induction generalizing instructions with
  | stuck bytes stuck =>
      rw [layout_of_stuck stuck, Layout.mk.injEq]
      constructor
      · rintro ⟨rfl, rfl⟩
        exact ⟨rfl, nofun, stuck⟩
      · rintro ⟨rfl, complete, _⟩
        cases instructions with
        | nil => exact ⟨rfl, rfl⟩
        | cons first rest =>
            rw [List.flatMap_cons, List.append_assoc, complete first List.mem_cons_self] at stuck
            cases stuck
  | step bytes first rest split inductionHypothesis =>
      rw [layout_of_split split, Layout.mk.injEq]
      constructor
      · rintro ⟨rfl, rfl⟩
        have below : Script.layout { bytes := rest } =
            { instructions := Script.instructions { bytes := rest },
              tail := (Script.layout { bytes := rest }).tail } :=
          rfl
        rcases inductionHypothesis.mp below with ⟨rest_eq, complete, stuck⟩
        refine ⟨?_, ?_, stuck⟩
        · rw [List.flatMap_cons, List.append_assoc, ← rest_eq]
          exact Instruction.split_append split
        · rintro instruction member
          rcases List.mem_cons.mp member with rfl | member
          · exact Instruction.isComplete_of_split split
          · exact complete instruction member
      · rintro ⟨rfl, complete, stuck⟩
        cases instructions with
        | nil =>
            rw [List.flatMap_nil, List.nil_append, stuck] at split
            cases split
        | cons found others =>
            rw [List.flatMap_cons, List.append_assoc, complete found List.mem_cons_self] at split
            cases split
            have below := inductionHypothesis.mpr
              ⟨rfl, fun instruction member =>
                complete instruction (List.mem_cons_of_mem first member), stuck⟩
            exact ⟨congrArg (first :: ·.instructions) below, congrArg Layout.tail below⟩

/-- The instructions of a script say where they end, and its tail is where none
begins. -/
theorem layout_spec (script : Script) :
    script.bytes = script.instructions.flatMap Instruction.bytes ++ script.layout.tail ∧
      (forall instruction, instruction ∈ script.instructions -> instruction.IsComplete) ∧
        Instruction.split? script.layout.tail = none :=
  layout_eq_iff.mp rfl

/-! ## Scripts that compare a hash -/

theorem isHashComparison_iff {hashOpcode : UInt8} {hashLength : Nat} {bytes : Bytes} :
    isHashComparison hashOpcode hashLength bytes = true ↔ ∃ hash : Bytes, hash.length = hashLength ∧
      bytes = hashOpcode :: UInt8.ofNat hashLength :: (hash ++ [Opcode.equal]) := by
  unfold isHashComparison
  constructor
  · intro shape
    simp only [Bool.and_eq_true, beq_iff_eq] at shape
    rcases shape with ⟨⟨⟨length_eq, first⟩, second⟩, last⟩
    rcases bytes with _ | ⟨opcode, _ | ⟨announced, rest⟩⟩
    · cases first
    · cases second
    cases first
    cases second
    rw [List.length_cons, List.length_cons] at length_eq
    refine ⟨rest.take hashLength, ?_, ?_⟩
    · rw [List.length_take]
      omega
    · have single : rest.drop hashLength = [Opcode.equal] := by
        have bound : hashLength < rest.length := by omega
        rw [List.getElem?_cons_succ, List.getElem?_cons_succ, List.getElem?_eq_getElem bound,
          Option.some.injEq] at last
        rw [List.drop_eq_getElem_cons bound, last, List.drop_eq_nil_of_le (by omega)]
      rw [← single, List.take_append_drop]
  · rintro ⟨hash, rfl, rfl⟩
    simp

/-- The instructions of a script that compares a hash: hash, push, compare. -/
theorem instructions_hashComparison {hashOpcode : UInt8} {hash : Bytes}
    (indirect : ¬ hashOpcode ≤ Opcode.pushBytesMax)
    (unannounced : Instruction.lengthWidth? hashOpcode = none)
    (short : hash.length ≤ 75) :
    Script.instructions
      { bytes := hashOpcode :: UInt8.ofNat hash.length :: (hash ++ [Opcode.equal]) } =
      [{ opcode := hashOpcode, lengthField := [], data := none },
        { opcode := UInt8.ofNat hash.length, lengthField := [], data := some hash },
        { opcode := Opcode.equal, lengthField := [], data := none }] := by
  have length_eq : hash.length = (UInt8.ofNat hash.length).toNat := by
    rw [UInt8.toNat_ofNat']
    omega
  rw [instructions_of_split (Instruction.split_plain _ indirect unannounced),
    instructions_of_split
      (Instruction.split_directPush [Opcode.equal] (Opcode.ofNat_le_pushBytesMax short) length_eq),
    instructions_of_split (Instruction.split_plain [] (by decide) (by decide)), instructions_nil]

end Script

end SpendRules

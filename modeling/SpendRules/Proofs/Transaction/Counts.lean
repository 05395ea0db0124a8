import SpendRules.Proofs.Codec.Counts
import SpendRules.Proofs.Size
import SpendRules.Proofs.Transaction

namespace SpendRules

open Sequencing

/-!
# Announced numbers of inputs and outputs

An input takes at least forty-one bytes and an output at least nine.  A list of them
that announces more than there can be is read no further than the bytes behind its
count reach.  An input holds nothing that could be wrong, so for want of bytes is the
only way in which reading it fails.  An output can also fail on its token.
-/

theorem VarInt.size_pos (value : Nat) : 0 < VarInt.size value := by
  unfold VarInt.size
  grind

namespace Input

theorem takesAtLeast : format.TakesAtLeast leastSize := by
  refine format_lawful.takesAtLeast fun input => ?_
  have front := VarInt.size_pos input.script.bytes.length
  rw [isSized_format input]
  change 41 ≤ 36 + (VarInt.size input.script.bytes.length + input.script.bytes.length) + 4
  omega

theorem onlyRunsShort_read : format.read.OnlyRunsShort := by
  have hash : Read.hash256.OnlyRunsShort := ((Read.isAtomic_bytes 32).map _).onlyRunsShort
  have word : Read.word32.OnlyRunsShort := (((Read.isAtomic_bytes 4).map _).map _).onlyRunsShort
  have outPoint : OutPoint.format.read.OnlyRunsShort :=
    hash.bind Read.recognizes_hash256 fun _ => word.bind Read.recognizes_word32 fun _ => .pure _
  have script : Script.format.read.OnlyRunsShort :=
    (Read.beginsWithLength_prefixedBytes.map Script.mk).onlyRunsShort
  exact outPoint.bind OutPoint.format_lawful.recognizes fun _ =>
    script.bind Script.format_lawful.recognizes fun _ =>
    word.bind Read.recognizes_word32 fun _ => .pure _

end Input

namespace Output

theorem takesAtLeast : format.TakesAtLeast leastSize := by
  refine format_lawful.takesAtLeast fun output => ?_
  have front := VarInt.size_pos output.scriptFieldSize
  rw [isSized_format output]
  change 9 ≤ 8 + VarInt.size output.scriptFieldSize + output.scriptFieldSize
  omega

end Output

namespace Transaction

/-- Whatever number of inputs or outputs is announced, the work stays within the bytes
behind it.  Too many inputs are reported as bytes that are missing. -/
theorem announced_staysWithin {cursor behind : Cursor} {count : Nat}
    (announced : Read.varint cursor = .ok count behind) :
    Input.format.StaysWithin Input.leastSize count cursor behind ∧
      Output.format.StaysWithin Output.leastSize count cursor behind ∧
      (behind.remaining / Input.leastSize < count ->
        ∃ after, Input.format.list.read cursor = .error .exhausted after) := by
  have inputs := Input.takesAtLeast.staysWithin (by decide) announced
  refine ⟨inputs, Output.takesAtLeast.staysWithin (by decide) announced, fun excessive => ?_⟩
  have tracks := inputs.tracks
  cases result : Input.format.readListAccounted Input.leastSize { cursor := cursor } with
  | ok items after =>
      exact absurd excessive (Nat.not_lt_of_le (inputs.succeeds items after result).1)
  | error failure after =>
      rw [result] at tracks
      have short := Format.onlyRunsShort_list Input.onlyRunsShort_read
        Input.format_lawful.recognizes
      rcases cursor with ⟨position, data, valid⟩
      cases valid with
      | false => cases announced
      | true =>
          rw [short position data failure after.cursor tracks.symm] at tracks
          exact ⟨after.cursor, tracks.symm⟩

/-- The greatest count in front of the bytes of one input. -/
private def oneOfMany : Bytes :=
  List.replicate 9 0xff ++ List.replicate 41 0

/-- With the bytes of one input there is an attempt at a second one, and no other. -/
theorem announced_staysWithin_greatestCount :
    ∃ behind, Read.varint (Cursor.ofBytes oneOfMany) = .ok 0xffffffffffffffff behind ∧
      behind.remaining = 41 ∧
      Input.format.StaysWithin Input.leastSize 0xffffffffffffffff
        (Cursor.ofBytes oneOfMany) behind ∧
      (finalState (Input.format.readListAccounted Input.leastSize)
        { cursor := Cursor.ofBytes oneOfMany }).begun = 2 ∧
      ∃ after, Input.format.list.read (Cursor.ofBytes oneOfMany) = .error .exhausted after := by
  have announced : Read.varint (Cursor.ofBytes oneOfMany) =
      .ok 0xffffffffffffffff { position := 9, rest := List.replicate 41 0, valid := true } := by rfl
  have stays := announced_staysWithin announced
  exact ⟨_, announced, by decide, stays.1, by decide +kernel, stays.2.2 (by decide)⟩

end Transaction

end SpendRules

import SpendRules.Script.Instruction

namespace SpendRules
namespace Script

/-!
# Taking instructions out of a script

A signature cannot commit to itself, nor to the separators it passes.  Both are taken out of
a script before it is signed.  The rest keeps its order, and a tail that forms no
instruction stays.
-/

/-- Take a nonempty byte string out wherever it starts where an instruction could start.
After a removal the next instruction starts where the removed bytes ended.  What was kept so
far is held in reverse order. -/
def removeOnto (needle : Bytes) (nonempty : needle ≠ []) (bytes kept : Bytes) : Bytes :=
  if _starts : needle.isPrefixOf bytes then
    removeOnto needle nonempty (bytes.drop needle.length) kept
  else
    match _split : Instruction.split? bytes with
    | some (instruction, rest) =>
        removeOnto needle nonempty rest (instruction.bytes.reverseAux kept)
    | none => kept.reverse ++ bytes
termination_by bytes.length
decreasing_by
  · have positive : 0 < needle.length := List.length_pos_iff.mpr nonempty
    have fits : needle.length ≤ bytes.length := (List.isPrefixOf_iff_prefix.mp _starts).length_le
    simp only [List.length_drop]
    omega
  · exact Instruction.length_rest_lt _split

/-- The script without the occurrences of a byte string that start where an instruction
could start. -/
def findAndDelete (script : Script) (needle : Bytes) : Script :=
  if nonempty : needle ≠ [] then { bytes := removeOnto needle nonempty script.bytes [] } else script

/-- Copy a byte string segment by segment.  A segment ends where a separator starts, and the
next one starts behind the separator.  The bytes begin with the current segment, of which
`passed` bytes lie before the instructions.  What was kept so far is held in reverse order.
-/
def copySegments (bytes : Bytes) (passed : Nat) (kept : Bytes) : List Instruction -> Bytes
  | [] => kept.reverse ++ bytes
  | instruction :: rest =>
    if instruction.opcode = Opcode.codeSeparator then
      copySegments (bytes.drop (passed + instruction.size)) 0
        ((bytes.take passed).reverseAux kept) rest
    else copySegments bytes (passed + instruction.size) kept rest

def withoutCodeSeparators (script : Script) : Script :=
  { bytes := copySegments script.bytes 0 [] script.instructions }

end Script
end SpendRules

import SpendRules.Codec.Format
import SpendRules.Script.Opcode

namespace SpendRules

/-!
# Scripts and their instructions

A script is a byte string that falls into instructions: an opcode, for some opcodes a
length, and the announced data.  Bytes at the end that announce more data than there is form
no instruction; they are the tail of the script.  A script without a tail is well formed.
-/

/-- A script, held as the bytes it consists of. -/
structure Script where
  bytes : Bytes
  deriving DecidableEq, Hashable

structure Instruction where
  opcode : UInt8
  /-- The bytes between the opcode and the data that announce the length of the data. -/
  lengthField : Bytes
  /-- The data that stands in the script, for opcodes that carry some. -/
  data : Option Bytes
  deriving DecidableEq, Repr

namespace Instruction

def bytes (instruction : Instruction) : Bytes :=
  instruction.opcode :: (instruction.lengthField ++ instruction.data.getD [])

def size (instruction : Instruction) : Nat :=
  1 + instruction.lengthField.length + (instruction.data.getD []).length

theorem length_bytes (instruction : Instruction) : instruction.bytes.length = instruction.size := by
  simp [bytes, size]
  omega

/-- The data was pushed in the shortest way.  Data that some opcode pushes by itself should
be left to that opcode. -/
def isMinimalPush (instruction : Instruction) : Bool :=
  match instruction.data with
  | none => true
  | some [] => instruction.opcode == Opcode.pushNothing
  | some [byte] =>
    !(decide (1 ≤ byte) && decide (byte ≤ 16)) && byte != 0x81 && instruction.opcode == 1
  | some data =>
    if data.length ≤ Opcode.pushBytesMax.toNat then instruction.opcode.toNat == data.length
    else if data.length ≤ 0xff then instruction.opcode == Opcode.pushDataOne
    else if data.length ≤ 0xffff then instruction.opcode == Opcode.pushDataTwo
    else true

/-- The number of length bytes that follow an opcode, for opcodes that announce the length
of their data. -/
def lengthWidth? (opcode : UInt8) : Option Nat :=
  if opcode = Opcode.pushDataOne then some 1
  else if opcode = Opcode.pushDataTwo then some 2
  else if opcode = Opcode.pushDataFour then some 4
  else none

/-- The first instruction of a byte string and what follows it; nothing when its data is cut off. -/
def split? : Bytes -> Option (Instruction × Bytes)
  | [] => none
  | opcode :: rest =>
    if opcode ≤ Opcode.pushBytesMax then
      match Bytes.splitExactly? opcode.toNat rest with
      | some (data, rest) => some ({ opcode := opcode, lengthField := [], data := some data }, rest)
      | none => none
    else match lengthWidth? opcode with
      | none => some ({ opcode := opcode, lengthField := [], data := none }, rest)
      | some width =>
        match Bytes.splitExactly? width rest with
        | none => none
        | some (lengthField, rest) =>
          match Bytes.splitExactly? lengthField.toNatLE rest with
          | some (data, rest) =>
            some ({ opcode := opcode, lengthField := lengthField, data := some data }, rest)
          | none => none

/-- Splitting off an instruction loses nothing. -/
theorem split_append {whole rest : Bytes} {instruction : Instruction}
    (split : split? whole = some (instruction, rest)) : whole = instruction.bytes ++ rest := by
  unfold split? at split
  split at split
  · contradiction
  · next opcode afterOpcode =>
    split at split
    · split at split
      · next data afterData taken =>
        simp only [Option.some.injEq, Prod.mk.injEq] at split
        obtain ⟨rfl, rfl⟩ := split
        simp [bytes, (Bytes.splitExactly_eq_some_iff.mp taken).1]
      · contradiction
    · split at split
      · simp only [Option.some.injEq, Prod.mk.injEq] at split
        obtain ⟨rfl, rfl⟩ := split
        simp [bytes]
      · split at split
        · contradiction
        · next lengthField afterLength lengthTaken =>
          split at split
          · next data afterData dataTaken =>
            simp only [Option.some.injEq, Prod.mk.injEq] at split
            obtain ⟨rfl, rfl⟩ := split
            simp [bytes, (Bytes.splitExactly_eq_some_iff.mp lengthTaken).1,
              (Bytes.splitExactly_eq_some_iff.mp dataTaken).1]
          · contradiction

theorem length_rest_lt {whole rest : Bytes} {instruction : Instruction}
    (split : split? whole = some (instruction, rest)) : rest.length < whole.length := by
  rw [split_append split]
  simp [bytes]
  omega

end Instruction

namespace Script

/-- A byte string cut into instructions, and the tail that forms none. -/
structure Layout where
  instructions : List Instruction
  tail : Bytes
  deriving DecidableEq, Repr

/-- Cut a byte string into instructions, behind those already found, which are kept in
reverse order. -/
def layoutOnto (bytes : Bytes) (found : List Instruction) : Layout :=
  match _split : Instruction.split? bytes with
  | some (instruction, rest) => layoutOnto rest (instruction :: found)
  | none => { instructions := found.reverse, tail := bytes }
termination_by bytes.length
decreasing_by exact Instruction.length_rest_lt _split

def layout (script : Script) : Layout :=
  layoutOnto script.bytes []

def instructions (script : Script) : List Instruction :=
  script.layout.instructions

/-- The instructions of a script, each with the offset at which it starts. -/
def placedFrom : Nat -> List Instruction -> List (Nat × Instruction)
  | _, [] => []
  | start, instruction :: rest => (start, instruction) :: placedFrom (start + instruction.size) rest

/-- The front parts of a script that end behind one of its instructions, and the whole
script if it has a tail. -/
def frontParts (script : Script) : List Script :=
  let layout := script.layout
  let parts := (placedFrom 0 layout.instructions).map fun (start, instruction) =>
    { bytes := script.bytes.take (start + instruction.size) }
  if layout.tail.isEmpty then parts else parts ++ [script]

/-- Every push in the script is complete. -/
def isWellFormed (script : Script) : Bool :=
  script.layout.tail.isEmpty

def isPushOnly (script : Script) : Bool :=
  let layout := script.layout
  layout.tail.isEmpty && layout.instructions.all fun instruction => Opcode.isPush instruction.opcode

/-- The form of a script on the wire: its length, then its bytes. -/
def format : Format Script where
  encode script := script.bytes.lengthPrefixed
  size script := VarInt.size script.bytes.length + script.bytes.length
  read := Script.mk <$> Read.prefixedBytes

def describe (script : Script) : String :=
  "Script(" ++ Bytes.hexadecimal script.bytes ++ ")"

end Script

end SpendRules

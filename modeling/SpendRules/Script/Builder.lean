import SpendRules.Script.Instruction
import SpendRules.Script.Number

namespace SpendRules
namespace Script

/-!
# Building scripts

Scripts are built from steps, each of which becomes one instruction.  Data is pushed by the
shortest opcode that can announce its length, and numbers by an opcode of their own where
there is one.
-/

def pushOf (data : Bytes) : Bytes :=
  let length := data.length
  if length ≤ Opcode.pushBytesMax.toNat then UInt8.ofNat length :: data
  else if length ≤ 0xff then Opcode.pushDataOne :: Bytes.ofNatLE 1 length ++ data
  else if length ≤ 0xffff then Opcode.pushDataTwo :: Bytes.ofNatLE 2 length ++ data
  else Opcode.pushDataFour :: Bytes.ofNatLE 4 length ++ data

def pushNumber (number : Int) : Bytes :=
  if number = 0 then [Opcode.pushNothing]
  else if number = -1 then [Opcode.minusOne]
  else if 1 ≤ number ∧ number ≤ 16 then [UInt8.ofNat (Opcode.one.toNat + number.toNat - 1)]
  else pushOf (ScriptNumber.encode number)

/-- One step of building a script. -/
inductive BuildStep where
  | opcode (code : UInt8)
  | number (value : Int)
  | data (bytes : Bytes)
  deriving DecidableEq, Repr

def BuildStep.bytes : BuildStep -> Bytes
  | .opcode code => [code]
  | .number value => pushNumber value
  | .data bytes => pushOf bytes

def ofSteps (steps : List BuildStep) : Script :=
  { bytes := steps.flatMap BuildStep.bytes }

end Script
end SpendRules

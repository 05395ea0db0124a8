import SpendRules.Script.Instruction

namespace SpendRules
namespace Script

/-!
# Scripts of a special shape

Two shapes of locking scripts commit to the hash of another script, which the spender then
has to supply.  A third shape can occur as such a supplied script and needs no further proof
from the spender.
-/

/-- Hash an element, push a hash of the given length, compare. -/
def isHashComparison (hashOpcode : UInt8) (hashLength : Nat) (bytes : Bytes) : Bool :=
  bytes.length == hashLength + 3 &&
    bytes[0]? == some hashOpcode && bytes[1]? == some (UInt8.ofNat hashLength) &&
    bytes[hashLength + 2]? == some Opcode.equal

/-- The script commits to the twenty-byte hash of another script. -/
def isPayToScriptHash (script : Script) : Bool :=
  isHashComparison Opcode.hash160 20 script.bytes

/-- The script commits to the thirty-two-byte hash of another script. -/
def isPayToScriptHash32 (script : Script) : Bool :=
  isHashComparison Opcode.hash256 32 script.bytes

/-- A small number as version, then one direct push of two to forty bytes that ends the script. -/
def isWitnessProgram (script : Script) : Bool :=
  match script.bytes with
  | version :: announced :: program =>
    (version == Opcode.pushNothing ||
      (decide (Opcode.one ≤ version) && decide (version ≤ Opcode.sixteen))) &&
      announced.toNat == program.length && decide (2 ≤ program.length) &&
        decide (program.length ≤ 40)
  | _ => false

end Script
end SpendRules

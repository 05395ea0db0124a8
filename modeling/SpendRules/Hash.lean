import SpendRules.Hash.Sha1
import SpendRules.Hash.Sha256
import SpendRules.Hash.Ripemd160

namespace SpendRules
namespace Hash

/-!
# Hash functions of scripts

Scripts name five hash functions.  Three are primitive, and two hash the result of SHA-256
once more.
-/

/-- RIPEMD-160 of SHA-256: the twenty bytes that stand for a key or a script. -/
def hash160 (message : Bytes) : Bytes :=
  ripemd160 (sha256 message).bytes

/-- The hash functions a script can ask for. -/
inductive Algorithm where
  | ripemd160
  | sha1
  | sha256
  | hash160
  | hash256
  deriving DecidableEq, Repr

namespace Algorithm

def apply (algorithm : Algorithm) (message : Bytes) : Bytes :=
  match algorithm with
  | .ripemd160 => Hash.ripemd160 message
  | .sha1 => Hash.sha1 message
  | .sha256 => (Hash.sha256 message).bytes
  | .hash160 => Hash.hash160 message
  | .hash256 => (doubleSha256 message).bytes

/-- The algorithm hashes its first result once more. -/
def isTwofold : Algorithm -> Bool
  | .hash160 | .hash256 => true
  | .ripemd160 | .sha1 | .sha256 => false

end Algorithm

/-- The number of blocks that one pass over a message of the given length compresses. -/
def digestIterations (messageLength : Nat) : Nat :=
  1 + (messageLength + 8) / blockSize

end Hash
end SpendRules

import SpendRules.Bytes

namespace SpendRules

/-!
# Hash values

Transactions, token categories and signature digests are named by hashes of 256 bits.  Their
length is part of the type, so no reader of such a value has to ask for it again.
-/

/-- A 256-bit hash: exactly thirty-two bytes. -/
structure Hash256 where
  bytes : Bytes
  length_eq : bytes.length = 32
  deriving DecidableEq

namespace Hash256

instance : Hashable Hash256 where
  hash value := hash value.bytes

/-- The first thirty-two of the given bytes, followed by zero bytes where there are fewer. -/
def ofBytes (bytes : Bytes) : Hash256 where
  bytes := bytes.take 32 ++ List.replicate (32 - bytes.length) 0
  length_eq := by
    simp only [List.length_append, List.length_take, List.length_replicate]
    omega

theorem bytes_ofBytes {bytes : Bytes} (length_eq : bytes.length = 32) :
    (ofBytes bytes).bytes = bytes := by
  simp [ofBytes, length_eq, List.take_of_length_le]

def ofBytes? (bytes : Bytes) : Option Hash256 :=
  if length_eq : bytes.length = 32 then some { bytes := bytes, length_eq := length_eq } else none

/-- The hash of zero bytes, which stands for what is not there. -/
def zero : Hash256 where
  bytes := List.replicate 32 0
  length_eq := List.length_replicate

/-- The hexadecimal form in which hashes are shown: the bytes in reverse order. -/
def display (value : Hash256) : String :=
  Bytes.hexadecimal value.bytes.reverse

end Hash256

end SpendRules

import SpendRules.Codec.Format

namespace SpendRules

/-!
# Tokens

An output can carry a token of a category: a fungible amount, a non-fungible item with a
commitment, or both.  The encoding is the category, a byte of flags, then the commitment and
the amount where the flags announce them.

Values of the type `Token` can break the rules that decoded tokens obey; `Token.validate`
tells.  They are encoded all the same, so that a token that cannot be decoded still has a
definite size and a definite hash.
-/

/-- What the holder of a non-fungible item may do with it. -/
inductive Capability where
  /-- The commitment stays as it is. -/
  | immutable
  /-- The commitment may be changed by spending. -/
  | mutable
  /-- New items of the category may be created. -/
  | minting
  deriving DecidableEq, Repr

namespace Capability

def toByte : Capability -> UInt8
  | .immutable => 0
  | .mutable => 1
  | .minting => 2

def ofByte? (byte : UInt8) : Option Capability :=
  if byte = 0 then some .immutable
  else if byte = 1 then some .mutable
  else if byte = 2 then some .minting
  else none

end Capability

structure NonFungible where
  capability : Capability
  commitment : Bytes
  deriving DecidableEq

/-- A token: its category, with an amount, an item, or both. -/
structure Token where
  category : Hash256
  amount : Option Int64
  nft : Option NonFungible
  deriving DecidableEq

namespace Token

/-- The byte before the token in the script field of an output. -/
def marker : UInt8 := 0xef

def reservedFlag : UInt8 := 0x80

def commitmentFlag : UInt8 := 0x40

def nftFlag : UInt8 := 0x20

def amountFlag : UInt8 := 0x10

/-- The flags that hold the number of the capability. -/
def capabilityMask : UInt8 := 0x0f

def maxCommitmentLength : Nat := 40

def maxAmount : Nat := 0x7fffffffffffffff

/-- The commitment; empty when there is no item. -/
def commitment (token : Token) : Bytes :=
  match token.nft with
  | some nft => nft.commitment
  | none => []

def capability? (token : Token) : Option Capability :=
  token.nft.map NonFungible.capability

/-- The amount; zero when there is none. -/
def amountOrZero (token : Token) : Int64 :=
  token.amount.getD 0

def flags (token : Token) : UInt8 :=
  let ofItem :=
    match token.nft with
    | some nft => nftFlag ||| nft.capability.toByte |||
      (if nft.commitment.isEmpty then 0 else commitmentFlag)
    | none => 0
  ofItem ||| (if token.amount.isSome then amountFlag else 0)

def validate (token : Token) : Except TokenDefect Unit :=
  if token.nft.isNone && token.amount.isNone then .error .neitherNftNorAmount
  else if token.amount.any (fun amount => amount ≤ 0) then .error .amountNotPositive
  else if token.commitment.length > maxCommitmentLength then .error .commitmentTooLong
  else .ok ()

/-- The bytes of a commitment: none when it is empty, else the commitment after its length. -/
def commitmentBytes (commitment : Bytes) : Bytes :=
  if commitment.isEmpty then [] else commitment.lengthPrefixed

/-- The amount as it is written: the value of its bits, also when it is negative. -/
def amountWord (amount : Int64) : Nat :=
  amount.toUInt64.toNat

def encode (token : Token) : Bytes :=
  token.category.bytes ++ token.flags :: (commitmentBytes token.commitment ++
    match token.amount with
    | some amount => VarInt.encode (amountWord amount)
    | none => [])

def size (token : Token) : Nat :=
  let length := token.commitment.length
  33 + (if length = 0 then 0 else VarInt.size length + length) +
    match token.amount with
    | some amount => VarInt.size (amountWord amount)
    | none => 0

private def refuse {α : Type} (defect : TokenDefect) : Read α :=
  throw (.tokenEncodingInvalid defect)

def readCommitment : Read Bytes := do
  let commitment <- Read.prefixedBytes
  if commitment.isEmpty then refuse .emptyCommitment
  else if commitment.length > maxCommitmentLength then refuse .commitmentTooLong
  else return commitment

def readAmount : Read Int64 := do
  let amount <- Read.varint
  if amount = 0 ∨ amount > maxAmount then refuse .amountOutOfRange
  else return Int64.ofNat amount

/-- Take what the flags announce behind them. -/
def readParts (category : Hash256) (capability : Capability)
    (hasNft hasCommitment hasAmount : Bool) :
    Read Token := do
  let commitment <- if hasCommitment then readCommitment else pure []
  let amount <- if hasAmount then some <$> readAmount else pure none
  return {
    category := category
    amount := amount
    nft := if hasNft then some { capability := capability, commitment := commitment } else none }

/-- Take the rest of a token, behind its category and its flags. -/
def readBehindFlags (category : Hash256) (flags : UInt8) : Read Token :=
  if flags &&& reservedFlag != 0 then refuse .reservedBitSet
  else
    match Capability.ofByte? (flags &&& capabilityMask) with
    | none => refuse .unknownCapability
    | some capability =>
      let hasNft := flags &&& nftFlag != 0
      let hasCommitment := flags &&& commitmentFlag != 0
      let hasAmount := flags &&& amountFlag != 0
      if !hasNft && (hasCommitment || capability != .immutable) then refuse .nftFieldsWithoutFlag
      else if !hasNft && !hasAmount then refuse .neitherNftNorAmount
      else readParts category capability hasNft hasCommitment hasAmount

def read : Read Token := do
  let category <- Read.hash256
  let flags <- Read.byte
  readBehindFlags category flags

/-- The form of a token in the script field of an output, after the marker. -/
def format : Format Token where
  encode := encode
  size := size
  read := read

end Token

end SpendRules

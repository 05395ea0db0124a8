import SpendRules.Codec.Cursor

namespace SpendRules

/-!
# Variable-width integers

A number below `0xfd` is one byte.  Larger numbers follow a marker byte that fixes their
width: `0xfd` for two bytes, `0xfe` for four and `0xff` for eight, least significant byte
first.  Writing uses the narrowest form.  Reading accepts every form, so one number has up
to four spellings.
-/

namespace VarInt

/-- The number of bytes that follow a first byte, when it is a marker. -/
def payloadWidth? (first : UInt8) : Option Nat :=
  if first = 0xfd then some 2
  else if first = 0xfe then some 4
  else if first = 0xff then some 8
  else none

/-- The narrowest form of a number below `2 ^ 64`. -/
def encode (value : Nat) : Bytes :=
  if value < 0xfd then [UInt8.ofNat value]
  else if value ≤ 0xffff then 0xfd :: Bytes.ofNatLE 2 value
  else if value ≤ 0xffffffff then 0xfe :: Bytes.ofNatLE 4 value
  else 0xff :: Bytes.ofNatLE 8 value

def size (value : Nat) : Nat :=
  if value < 0xfd then 1
  else if value ≤ 0xffff then 3
  else if value ≤ 0xffffffff then 5
  else 9

theorem length_encode (value : Nat) : (encode value).length = size value := by
  unfold encode size
  repeat' split
  all_goals simp [Bytes.length_ofNatLE]

end VarInt

namespace Read

/-- Take a variable-width integer.  The marker and its payload are taken together or not at all. -/
def varint : Read Nat := fun cursor =>
  if cursor.valid then
    match cursor.rest with
    | [] => exhausted cursor
    | first :: rest =>
      match VarInt.payloadWidth? first with
      | none => .ok first.toNat { cursor with position := cursor.position + 1, rest := rest }
      | some width =>
        match Bytes.splitExactly? width rest with
        | some (payload, rest) =>
          .ok payload.toNatLE
            { cursor with position := cursor.position + (1 + width), rest := rest }
        | none => exhausted cursor
  else
    .error .invalidCursor cursor

/-- Take a variable-width integer that announces a length, and make sure that so many bytes
are left. -/
def announcedLength : Read Nat := do
  let count <- varint
  fun cursor => if cursor.rest.hasAtLeast count then .ok count cursor else exhausted cursor

def prefixedBytes : Read Bytes := do
  let count <- announcedLength
  bytes count

end Read

/-- The form in which a byte string is written after its own length. -/
def Bytes.lengthPrefixed (bytes : Bytes) : Bytes :=
  VarInt.encode bytes.length ++ bytes

end SpendRules

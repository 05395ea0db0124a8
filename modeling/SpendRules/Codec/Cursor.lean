import SpendRules.Failure
import SpendRules.Hash256

namespace SpendRules

/-!
# Reading bytes

A cursor stands at a position of a byte string.  A read either takes bytes from the front of
what is left, or fails; after a failure the cursor is spent, and every later read reports
that instead of touching the data.  A read that fails by itself leaves the position where it
was.  A read that is made of several reads stops at the first failure, so what the earlier
ones took stays taken.

The state travels through failures too, which is why reads live in `EStateM`.
-/

/-- A position in a byte string: how much has been taken, what is left, and whether reads
are still allowed. -/
structure Cursor where
  position : Nat
  rest : Bytes
  valid : Bool
  deriving DecidableEq, Repr

namespace Cursor

/-- A fresh cursor at the front of the data. -/
def ofBytes (data : Bytes) : Cursor :=
  { position := 0, rest := data, valid := true }

/-- The number of bytes that have not been taken. -/
def remaining (cursor : Cursor) : Nat :=
  cursor.rest.length

def isExhausted (cursor : Cursor) : Bool :=
  cursor.rest.isEmpty

end Cursor

/-- A read: it returns a value and moves the cursor, or fails and says where the cursor was left. -/
abbrev Read (α : Type) := EStateM CodecError Cursor α

namespace Read

/-- Give up: the cursor keeps its position and refuses every later read. -/
def exhausted {α : Type} : Read α := fun cursor =>
  .error .exhausted { cursor with valid := false }

def bytes (count : Nat) : Read Bytes := fun cursor =>
  if cursor.valid then
    match Bytes.splitExactly? count cursor.rest with
    | some (front, rest) =>
        .ok front { cursor with position := cursor.position + count, rest := rest }
    | none => exhausted cursor
  else
    .error .invalidCursor cursor

def nat (order : ByteOrder) (width : Nat) : Read Nat :=
  Bytes.toNat order <$> bytes width

def byte : Read UInt8 :=
  UInt8.ofNat <$> nat .leastFirst 1

/-- Take a 32-bit word, least significant byte first. -/
def word32 : Read UInt32 :=
  UInt32.ofNat <$> nat .leastFirst 4

/-- Take a 64-bit word, least significant byte first. -/
def word64 : Read UInt64 :=
  UInt64.ofNat <$> nat .leastFirst 8

def hash256 : Read Hash256 :=
  Hash256.ofBytes <$> bytes 32

end Read

end SpendRules

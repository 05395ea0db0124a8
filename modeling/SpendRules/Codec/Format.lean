import SpendRules.Codec.VarInt

namespace SpendRules

/-!
# Formats

A format ties the three sides of an encoding together: the bytes of a value, the number of
those bytes, which is computed without building them, and the read that takes a value from a
cursor.  Formats are values rather than instances, because one type can have several of them.

Lists announce how many values follow, and the announced number can be any machine word.  To
say what work it causes, a list can be read with an account beside the cursor: how many values
space was set aside for, and of how many the reading was begun.
-/

/-- The bytes of a value, their number, and the read that inverts them. -/
structure Format (α : Type) where
  encode : α -> Bytes
  size : α -> Nat
  read : Read α

namespace Format

variable {α : Type}

/-- Read a value from the front of the data.  A strict decoding refuses bytes after the value. -/
def decode (format : Format α) (data : Bytes) (strict : Bool) : Except CodecError α :=
  match format.read (Cursor.ofBytes data) with
  | .error failure _ => .error failure
  | .ok value cursor =>
    if strict && !cursor.isExhausted then .error (.trailingBytes cursor.remaining) else .ok value

/-- Read `count` values one after another in front of those already read, which are kept in
reverse order. -/
def readOnto (format : Format α) : Nat -> List α -> Read (List α)
  | 0, done => pure done.reverse
  | count + 1, done => do
    let value <- format.read
    format.readOnto count (value :: done)

/-- A list of values after its announced length.  The length is trusted only as far as the
values can be read. -/
def list (format : Format α) : Format (List α) where
  encode values := VarInt.encode values.length ++ values.flatMap format.encode
  size values :=
    VarInt.size values.length + values.foldr (fun value total => format.size value + total) 0
  read := do
    let count <- Read.varint
    format.readOnto count []

end Format

/-! ## Lists with an account -/

/-- A cursor with an account of the work on a list. -/
structure ListAccount where
  cursor : Cursor
  /-- The number of items that space was set aside for. -/
  reserved : Nat := 0
  /-- The number of items of which the reading was begun. -/
  begun : Nat := 0

/-- A read that keeps an account. -/
abbrev AccountedRead (α : Type) := EStateM CodecError ListAccount α

/-- The read of the cursor beside the account. -/
def Read.accounted {α : Type} (read : Read α) : AccountedRead α := fun account =>
  match read account.cursor with
  | .ok value cursor => .ok value { account with cursor := cursor }
  | .error failure cursor => .error failure { account with cursor := cursor }

namespace Format

variable {α : Type} (format : Format α)

/-- Read items one after another, and count those of which the reading is begun. -/
def readOntoAccounted : Nat -> List α -> AccountedRead (List α)
  | 0, done => pure done.reverse
  | count + 1, done => do
    modify fun account => { account with begun := account.begun + 1 }
    let value <- format.read.accounted
    readOntoAccounted count (value :: done)

/-- Read a list.  Space is set aside for the items that it announces, but not for more
than there can be in the bytes that are left if each of them takes a least number. -/
def readListAccounted (least : Nat) : AccountedRead (List α) := do
  let count <- Read.varint.accounted
  modify fun account =>
    { account with reserved := min count (account.cursor.remaining / least) }
  format.readOntoAccounted count []

end Format

end SpendRules

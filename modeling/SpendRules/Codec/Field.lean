import SpendRules.Codec.VarInt

namespace SpendRules

/-!
# Typed fields

A field is one value as it stands in a byte string: a word of fixed width in either byte
order, a variable-width integer, raw bytes, or bytes after their length.  Its shape is what
a reader has to know beforehand.  Writing fields one after another and reading the same
shapes gives the fields back; no field needs a range condition, since a word is exactly as
wide as its shape says.
-/

/-- One value as it is written. -/
inductive Field where
  | word (order : ByteOrder) (width : Nat) (value : BitVec (8 * width))
  | varint (value : UInt64)
  | raw (bytes : Bytes)
  | lengthPrefixed (bytes : Bytes)
  deriving DecidableEq

namespace Field

/-- What a reader knows about a field before reading it. -/
inductive Shape where
  | word (order : ByteOrder) (width : Nat)
  | varint
  | raw (count : Nat)
  | lengthPrefixed
  deriving DecidableEq, Repr

/-- The shape under which a field can be read back. -/
def shape : Field -> Shape
  | .word order width _ => .word order width
  | .varint _ => .varint
  | .raw bytes => .raw bytes.length
  | .lengthPrefixed _ => .lengthPrefixed

def encode : Field -> Bytes
  | .word order width value => Bytes.ofNat order width value.toNat
  | .varint value => VarInt.encode value.toNat
  | .raw bytes => bytes
  | .lengthPrefixed bytes => bytes.lengthPrefixed

def read : Shape -> Read Field
  | .word order width => do return .word order width (BitVec.ofNat _ (<- Read.nat order width))
  | .varint => do return .varint (UInt64.ofNat (<- Read.varint))
  | .raw count => do return .raw (<- Read.bytes count)
  | .lengthPrefixed => do return .lengthPrefixed (<- Read.prefixedBytes)

def encodeAll (fields : List Field) : Bytes :=
  fields.flatMap encode

def readAll : List Shape -> Read (List Field)
  | [] => pure []
  | first :: shapes => do
    let field <- read first
    let fields <- readAll shapes
    return field :: fields

end Field

end SpendRules

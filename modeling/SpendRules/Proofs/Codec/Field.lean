import SpendRules.Codec.Field
import SpendRules.Proofs.Codec.VarInt

namespace SpendRules

/-!
# Fields are read back

A field is spelled as it is written, but for the width of its variable-width
integers.  A read for a shape takes the spellings of the fields of this shape and
nothing else.  What is written field by field is therefore read back shape by
shape, whatever follows it, and the cursor stops behind it.

Values of machine types are written as fields, a signed one as the word of its
bits.  A reader knows their kinds and nothing else about them.
-/

namespace Field

/-- The spellings of a field. -/
def Spelled : Field -> Bytes -> Prop
  | .word order width value, taken => taken = Bytes.ofNat order width value.toNat
  | .varint value, taken => VarInt.Spelled value.toNat taken
  | .raw bytes, taken => taken = bytes
  | .lengthPrefixed bytes, taken => ∃ front, VarInt.Spelled bytes.length front ∧
    taken = front ++ bytes

private theorem ofNat_toNat_bits {width : Nat} (bits : BitVec width) :
    BitVec.ofNat width bits.toNat = bits := by
  rw [BitVec.ofNat_toNat, BitVec.setWidth_eq]

/-- A word holds exactly the numbers of its width. -/
private theorem toNat_ofNat_of_lt {width number : Nat} (small : number < 256 ^ width) :
    (BitVec.ofNat (8 * width) number).toNat = number := by
  rw [BitVec.toNat_ofNat, Nat.pow_mul]
  exact Nat.mod_eq_of_lt small

private theorem recognizes_word (order : ByteOrder) (width : Nat) :
    (read (.word order width)).Recognizes
      (fun field taken => field.shape = .word order width ∧ field.Spelled taken) := by
  have sequenced := (Read.recognizes_nat order width).map fun number =>
    word order width (BitVec.ofNat _ number)
  refine @Read.Recognizes.congr _ (read (.word order width)) _ _ sequenced ?_
  intro field taken
  constructor
  · rintro ⟨number, ⟨small, rfl⟩, rfl⟩
    refine ⟨rfl, ?_⟩
    rw [Spelled, toNat_ofNat_of_lt small]
  · rintro ⟨same, spelled⟩
    cases field with
    | word order width value =>
        cases same
        have small : value.toNat < 256 ^ width :=
          Nat.lt_of_lt_of_eq value.isLt (Nat.pow_mul 2 8 width)
        exact ⟨value.toNat, ⟨small, spelled⟩,
          congrArg (word order width) (ofNat_toNat_bits value).symm⟩
    | _ => cases same

private theorem recognizes_varint :
    (read .varint).Recognizes (fun field taken => field.shape = .varint ∧ field.Spelled taken) := by
  have sequenced := Read.recognizes_varint.map fun number => varint (UInt64.ofNat number)
  refine @Read.Recognizes.congr _ (read .varint) _ _ sequenced ?_
  intro field taken
  constructor
  · rintro ⟨number, spelled, rfl⟩
    refine ⟨rfl, ?_⟩
    rwa [Spelled, UInt64.toNat_ofNat_of_lt' spelled.lt]
  · rintro ⟨same, spelled⟩
    cases field with
    | varint value => exact ⟨value.toNat, spelled, by rw [UInt64.ofNat_toNat]⟩
    | _ => cases same

/-- A read for a shape takes the spellings of fields of this shape. -/
theorem recognizes_read (shape : Shape) :
    (read shape).Recognizes (fun field taken => field.shape = shape ∧ field.Spelled taken) := by
  cases shape with
  | word order width => exact recognizes_word order width
  | varint => exact recognizes_varint
  | raw count =>
      refine @Read.Recognizes.congr _ (read (.raw count)) _ _
        ((Read.recognizes_bytes count).map raw) ?_
      intro field taken
      constructor
      · rintro ⟨bytes, ⟨rfl, rfl⟩, rfl⟩
        exact ⟨rfl, rfl⟩
      · rintro ⟨same, spelled⟩
        cases field with
        | raw bytes =>
            cases same
            exact ⟨bytes, ⟨spelled, rfl⟩, rfl⟩
        | _ => cases same
  | lengthPrefixed =>
      refine @Read.Recognizes.congr _ (read .lengthPrefixed) _ _
        (Read.recognizes_prefixedBytes.map lengthPrefixed) ?_
      intro field taken
      constructor
      · rintro ⟨bytes, spelled, rfl⟩
        exact ⟨rfl, spelled⟩
      · rintro ⟨same, spelled⟩
        cases field with
        | lengthPrefixed bytes => exact ⟨bytes, spelled, rfl⟩
        | _ => cases same

/-- The length of a byte string can be announced. -/
def Fits : Field -> Prop
  | .lengthPrefixed bytes => bytes.length < 2 ^ 64
  | _ => True

/-- What is written for a field is a spelling of it. -/
theorem spelled_encode {field : Field} (fits : field.Fits) : field.Spelled field.encode := by
  cases field with
  | word order width value => rfl
  | varint value => exact VarInt.spelled_encode value.toNat_lt
  | raw bytes => rfl
  | lengthPrefixed bytes => exact Bytes.lengthPrefixed_spelled fits

/-- Fields that are written one after another are read back, and the cursor stops
behind them, whatever follows. -/
theorem readAll_encodeAll {fields : List Field} (fits : forall field, field ∈ fields -> field.Fits)
    (position : Nat) (more : Bytes) :
    readAll (fields.map shape)
        { position := position, rest := encodeAll fields ++ more, valid := true } =
      .ok fields
        { position := position + (encodeAll fields).length, rest := more, valid := true } := by
  induction fields generalizing position with
  | nil => rfl
  | cons field fields inductionHypothesis =>
      -- The bytes of the other fields are among those that follow the first one.
      have first := (recognizes_read field.shape position
        (field.encode ++ (encodeAll fields ++ more)) field _).mpr
        ⟨field.encode, _, ⟨rfl, spelled_encode (fits field List.mem_cons_self)⟩, rfl, rfl⟩
      have others := inductionHypothesis
        (fun other member => fits other (List.mem_cons_of_mem field member))
        (position + field.encode.length)
      have unfolded : encodeAll (field :: fields) =
          field.encode ++ encodeAll fields := List.flatMap_cons
      rw [unfolded, List.append_assoc, List.length_append, ← Nat.add_assoc, List.map_cons, readAll]
      rw [Sequencing.bind_eq_ok_iff]
      refine ⟨field, _, first, ?_⟩
      rw [Sequencing.bind_eq_ok_iff]
      exact ⟨fields, _, others, rfl⟩

/-- The number of a field; zero for a field of bytes. -/
def number : Field -> Nat
  | .word _ _ value => value.toNat
  | .varint value => value.toNat
  | .raw _ | .lengthPrefixed _ => 0

/-- The bytes of a field; none for a number. -/
def content : Field -> Bytes
  | .raw bytes | .lengthPrefixed bytes => bytes
  | .word _ _ _ | .varint _ => []

end Field

/-! ## Values of machine types -/

/-- A value of one of the types that are written. -/
inductive WrittenValue where
  | uint8 (value : UInt8)
  | uint16 (order : ByteOrder) (value : UInt16)
  | uint32 (order : ByteOrder) (value : UInt32)
  | uint64 (order : ByteOrder) (value : UInt64)
  | int32 (value : Int32)
  | int64 (value : Int64)
  | varint (value : UInt64)
  | raw (bytes : Bytes)
  | lengthPrefixed (bytes : Bytes)

namespace WrittenValue

/-- What a reader knows about a value before reading it. -/
inductive Kind where
  | uint8
  | uint16 (order : ByteOrder)
  | uint32 (order : ByteOrder)
  | uint64 (order : ByteOrder)
  | int32
  | int64
  | varint
  | raw (count : Nat)
  | lengthPrefixed

def kind : WrittenValue -> Kind
  | .uint8 _ => .uint8
  | .uint16 order _ => .uint16 order
  | .uint32 order _ => .uint32 order
  | .uint64 order _ => .uint64 order
  | .int32 _ => .int32
  | .int64 _ => .int64
  | .varint _ => .varint
  | .raw bytes => .raw bytes.length
  | .lengthPrefixed _ => .lengthPrefixed

/-- The field that is written for a value.  Signed words are written by their bits, the
least significant byte first. -/
def field : WrittenValue -> Field
  | .uint8 value => .word .leastFirst 1 value.toBitVec
  | .uint16 order value => .word order 2 value.toBitVec
  | .uint32 order value => .word order 4 value.toBitVec
  | .uint64 order value => .word order 8 value.toBitVec
  | .int32 value => .word .leastFirst 4 value.toBitVec
  | .int64 value => .word .leastFirst 8 value.toBitVec
  | .varint value => .varint value
  | .raw bytes => .raw bytes
  | .lengthPrefixed bytes => .lengthPrefixed bytes

namespace Kind

def shape : Kind -> Field.Shape
  | .uint8 => .word .leastFirst 1
  | .uint16 order => .word order 2
  | .uint32 order => .word order 4
  | .uint64 order => .word order 8
  | .int32 => .word .leastFirst 4
  | .int64 => .word .leastFirst 8
  | .varint => .varint
  | .raw count => .raw count
  | .lengthPrefixed => .lengthPrefixed

/-- The value of a kind that a field stands for.  The number of a signed word is taken
modulo the width, so that its highest bit becomes the sign. -/
def ofField (kind : Kind) (field : Field) : WrittenValue :=
  match kind with
  | .uint8 => .uint8 (UInt8.ofNat field.number)
  | .uint16 order => .uint16 order (UInt16.ofNat field.number)
  | .uint32 order => .uint32 order (UInt32.ofNat field.number)
  | .uint64 order => .uint64 order (UInt64.ofNat field.number)
  | .int32 => .int32 (Int32.ofNat field.number)
  | .int64 => .int64 (Int64.ofNat field.number)
  | .varint => .varint (UInt64.ofNat field.number)
  | .raw _ => .raw field.content
  | .lengthPrefixed => .lengthPrefixed field.content

end Kind

theorem shape_field (value : WrittenValue) : value.field.shape = value.kind.shape := by
  cases value with
  | _ => rfl

theorem ofField_field (value : WrittenValue) : value.kind.ofField value.field = value := by
  cases value with
  | uint8 value => exact congrArg uint8 UInt8.ofNat_toNat
  | uint16 order value => exact congrArg (uint16 order) UInt16.ofNat_toNat
  | uint32 order value => exact congrArg (uint32 order) UInt32.ofNat_toNat
  | uint64 order value => exact congrArg (uint64 order) UInt64.ofNat_toNat
  | int32 value => exact congrArg int32 (Int32.toBitVec_inj.mp
    (Field.ofNat_toNat_bits value.toBitVec))
  | int64 value => exact congrArg int64 (Int64.toBitVec_inj.mp
    (Field.ofNat_toNat_bits value.toBitVec))
  | varint value => exact congrArg varint UInt64.ofNat_toNat
  | raw bytes => rfl
  | lengthPrefixed bytes => rfl

/-- The bytes of values written one after another. -/
def encodeAll (values : List WrittenValue) : Bytes :=
  Field.encodeAll (values.map field)

/-- Read values of given kinds one after another. -/
def readAll (kinds : List Kind) : Read (List WrittenValue) :=
  List.zipWith Kind.ofField kinds <$> Field.readAll (kinds.map Kind.shape)

private theorem fields_fit {values : List WrittenValue}
    (fits : forall bytes, lengthPrefixed bytes ∈ values -> bytes.length < 2 ^ 64) :
    forall written, written ∈ values.map field -> written.Fits := by
  intro written member
  rcases List.mem_map.mp member with ⟨value, own, rfl⟩
  cases value with
  | lengthPrefixed bytes => exact fits bytes own
  | _ => exact trivial

/-- What is written is what is read, whatever follows it.  A variable-width integer is
written in the size that is computed for it, and nothing shorter is read as it. -/
theorem readAll_encodeAll_append (values : List WrittenValue)
    (fits : forall bytes, lengthPrefixed bytes ∈ values -> bytes.length < 2 ^ 64) :
    (forall more, readAll (values.map kind) (Cursor.ofBytes (encodeAll values ++ more)) =
        .ok values { position := (encodeAll values).length, rest := more, valid := true }) ∧
      forall value : UInt64, (VarInt.encode value.toNat).length = VarInt.size value.toNat ∧
        forall data after, Read.varint (Cursor.ofBytes data) = .ok value.toNat after ->
          (VarInt.encode value.toNat).length ≤ after.position := by
  constructor
  · intro more
    have shapes : (values.map field).map Field.shape = (values.map kind).map Kind.shape := by
      simp only [List.map_map, List.map_inj_left, Function.comp_apply]
      exact fun value _ => shape_field value
    have found : List.zipWith Kind.ofField (values.map kind) (values.map field) = values := by
      rw [List.zipWith_map, List.zipWith_self]
      simp only [ofField_field, List.map_id']
    have read := Field.readAll_encodeAll (fields_fit fits) 0 more
    rw [shapes, Nat.zero_add] at read
    refine Sequencing.bind_eq_ok_iff.mpr ⟨values.map field, _, read, ?_⟩
    exact Sequencing.pure_eq_ok_iff.mpr ⟨found, rfl⟩
  · intro value
    refine ⟨VarInt.length_encode _, ?_⟩
    intro data after read
    rcases (Read.recognizes_varint 0 data _ after).mp read with ⟨taken, rest, spelled, rfl, rfl⟩
    rw [Nat.zero_add]
    exact spelled.shortens.length_le

/-- Words of both orders, a negative one, the greatest two-byte integer and three hundred
bytes behind their length. -/
private def sample : List WrittenValue :=
  [.uint32 .leastFirst 0xdeadbeef, .uint16 .mostFirst 0x0102, .int64 (-1), .varint 0xffff,
    .raw [1, 2], .lengthPrefixed (List.replicate 300 0xab)]

/-- They are read back in front of a further byte, which is left. -/
theorem readAll_encodeAll_append_sample :
    readAll [.uint32 .leastFirst, .uint16 .mostFirst, .int64, .varint, .raw 2, .lengthPrefixed]
        (Cursor.ofBytes (encodeAll sample ++ [7])) =
      .ok sample { position := 322, rest := [7], valid := true } := by
  have fits : forall bytes, lengthPrefixed bytes ∈ sample -> bytes.length < 2 ^ 64 := by
    intro bytes member
    simp only [sample, List.mem_cons, List.not_mem_nil, or_false, reduceCtorEq, false_or,
      lengthPrefixed.injEq] at member
    rw [member, List.length_replicate]
    decide
  have length : (encodeAll sample).length = 322 := by decide +kernel
  exact length ▸ (readAll_encodeAll_append sample fits).1 [7]

end WrittenValue
end SpendRules

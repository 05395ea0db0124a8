namespace SpendRules

/-!
# Byte strings

Everything this library reads, writes, hashes or keeps on a stack is a list of bytes.  A
list is the plainest carrier: concatenation of encodings is list append, and a law about an
encoding is an induction on the list.

Fixed-width integers are written once, for every width and in both byte orders, as natural
numbers.  The word types of the domain reach these functions through their value as a
natural number.
-/

abbrev Bytes := List UInt8

inductive ByteOrder where
  | leastFirst
  | mostFirst
  deriving DecidableEq, Repr

namespace Bytes

/-- The `width` bytes of `value` with the least significant byte first.  Higher bytes of
`value` are dropped. -/
def ofNatLE : Nat -> Nat -> Bytes
  | 0, _ => []
  | width + 1, value => UInt8.ofNat value :: ofNatLE width (value / 256)

/-- The number whose bytes are given with the least significant byte first. -/
def toNatLE (bytes : Bytes) : Nat :=
  bytes.foldr (fun byte rest => byte.toNat + 256 * rest) 0

theorem length_ofNatLE (width value : Nat) : (ofNatLE width value).length = width := by
  induction width generalizing value with
  | zero => rfl
  | succ width ih => simp [ofNatLE, ih]

def ofNat (order : ByteOrder) (width value : Nat) : Bytes :=
  match order with
  | .leastFirst => ofNatLE width value
  | .mostFirst => (ofNatLE width value).reverse

def toNat (order : ByteOrder) (bytes : Bytes) : Nat :=
  match order with
  | .leastFirst => toNatLE bytes
  | .mostFirst => toNatLE bytes.reverse

theorem length_ofNat (order : ByteOrder) (width value : Nat) :
    (ofNat order width value).length = width := by
  cases order <;> simp [ofNat, length_ofNatLE]

/-- The number of bytes that hold `value` without a leading zero byte; none for zero. -/
def width (value : Nat) : Nat :=
  if value = 0 then 0 else Nat.log2 value / 8 + 1

/-- There are at least `count` bytes.  Only that many are looked at, however long the byte
string is. -/
def hasAtLeast (count : Nat) (bytes : Bytes) : Bool :=
  (bytes.take count).length == count

/-- The first `count` bytes and the rest, when there are that many. -/
def splitExactly? (count : Nat) (bytes : Bytes) : Option (Bytes × Bytes) :=
  if bytes.hasAtLeast count then some (bytes.take count, bytes.drop count) else none

/-- A byte string splits at a count exactly into a front of that length and
what follows it. -/
theorem splitExactly_eq_some_iff {count : Nat} {whole front rest : Bytes} :
    splitExactly? count whole = some (front, rest) ↔
      whole = front ++ rest ∧ front.length = count := by
  unfold splitExactly? hasAtLeast
  constructor
  · intro split
    by_cases enough : ((whole.take count).length == count) = true
    · rw [if_pos enough, Option.some.injEq, Prod.mk.injEq] at split
      rcases split with ⟨rfl, rfl⟩
      exact ⟨(List.take_append_drop count whole).symm, eq_of_beq enough⟩
    · rw [if_neg enough] at split
      cases split
  · rintro ⟨rfl, rfl⟩
    simp only [List.take_left, List.drop_left, beq_self_eq_true, if_true]

/-- The lower-case hexadecimal digit of a number below sixteen. -/
private def hexDigit (value : Nat) : Char :=
  if value < 10 then Char.ofNat (48 + value) else Char.ofNat (87 + value)

def hexadecimal (bytes : Bytes) : String :=
  String.ofList (bytes.flatMap fun byte => [hexDigit (byte.toNat / 16), hexDigit (byte.toNat % 16)])

end Bytes

end SpendRules

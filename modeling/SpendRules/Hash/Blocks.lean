import SpendRules.Bytes

namespace SpendRules
namespace Hash

/-!
# Hashing in blocks

The three hash functions of this library share one construction.  A message is padded with a
marker byte, zeros and its length in bits so that it fills whole blocks of 64 bytes, and a
compression function is folded over the blocks.  Only the byte order of words and length,
the chaining state and the compression differ.
-/

def blockSize : Nat := 64

/-- The least number of zero bytes after which the marker and the eight length bytes
complete a block. -/
def zeroPadding (messageLength : Nat) : Nat :=
  (119 - messageLength % blockSize) % blockSize

/-- The message followed by a marker byte, zeros and its length in bits. -/
def padded (order : ByteOrder) (message : Bytes) : Bytes :=
  message ++ (0x80 :: List.replicate (zeroPadding message.length) 0) ++
    Bytes.ofNat order 8 (8 * message.length)

/-- Fold a compression over the first `count` blocks. -/
def foldBlocks {State : Type} (compress : State -> Bytes -> State) : Nat -> Bytes -> State -> State
  | 0, _, state => state
  | count + 1, bytes, state =>
    foldBlocks compress count (bytes.drop blockSize) (compress state (bytes.take blockSize))

/-- Fold a compression over all blocks of the padded message. -/
def absorb {State : Type} (order : ByteOrder) (compress : State -> Bytes -> State) (initial : State)
    (message : Bytes) : State :=
  let filled := padded order message
  foldBlocks compress (filled.length / blockSize) filled initial

def word (order : ByteOrder) (first second third fourth : UInt8) : UInt32 :=
  match order with
  | .mostFirst =>
    (first.toUInt32 <<< 24) ||| (second.toUInt32 <<< 16) ||| (third.toUInt32 <<< 8) |||
      fourth.toUInt32
  | .leastFirst =>
    (fourth.toUInt32 <<< 24) ||| (third.toUInt32 <<< 16) ||| (second.toUInt32 <<< 8) |||
      first.toUInt32

/-- The words of a byte string; an incomplete word at the end is left out. -/
def words (order : ByteOrder) : Bytes -> List UInt32
  | first :: second :: third :: fourth :: rest =>
    word order first second third fourth :: words order rest
  | _ => []

def wordBytes (order : ByteOrder) (value : UInt32) : Bytes :=
  Bytes.ofNat order 4 value.toNat

theorem length_wordBytes (order : ByteOrder) (value : UInt32) :
    (wordBytes order value).length = 4 :=
  Bytes.length_ofNat order 4 value.toNat

def rotateLeft (value count : UInt32) : UInt32 :=
  (value <<< count) ||| (value >>> (32 - count))

def rotateRight (value count : UInt32) : UInt32 :=
  (value >>> count) ||| (value <<< (32 - count))

/-- Sixteen consecutive words of a message schedule. -/
structure Window where
  w0 : UInt32
  w1 : UInt32
  w2 : UInt32
  w3 : UInt32
  w4 : UInt32
  w5 : UInt32
  w6 : UInt32
  w7 : UInt32
  w8 : UInt32
  w9 : UInt32
  w10 : UInt32
  w11 : UInt32
  w12 : UInt32
  w13 : UInt32
  w14 : UInt32
  w15 : UInt32

namespace Window

/-- The window at the start of a schedule: the words of the block itself. -/
def ofBlock (order : ByteOrder) (block : Bytes) : Window :=
  match words order block with
  | [w0, w1, w2, w3, w4, w5, w6, w7, w8, w9, w10, w11, w12, w13, w14, w15] =>
    ⟨w0, w1, w2, w3, w4, w5, w6, w7, w8, w9, w10, w11, w12, w13, w14, w15⟩
  | _ => ⟨0, 0, 0, 0, 0, 0, 0, 0, 0, 0, 0, 0, 0, 0, 0, 0⟩

def shift (window : Window) (next : UInt32) : Window :=
  ⟨window.w1, window.w2, window.w3, window.w4, window.w5, window.w6, window.w7, window.w8,
    window.w9, window.w10, window.w11, window.w12, window.w13, window.w14, window.w15, next⟩

end Window

end Hash
end SpendRules

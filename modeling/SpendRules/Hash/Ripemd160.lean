import SpendRules.Hash.Blocks

namespace SpendRules
namespace Hash
namespace Ripemd160

/-!
# RIPEMD-160

Two lines of eighty rounds run side by side over the same block and are crossed at the end.
A line is five groups of sixteen rounds.  A group fixes the boolean function and the
constant; each of its rounds names the word of the block that it takes and a rotation.
-/

/-- The chaining state. -/
structure State where
  a : UInt32
  b : UInt32
  c : UInt32
  d : UInt32
  e : UInt32

def initial : State :=
  ⟨0x67452301, 0xefcdab89, 0x98badcfe, 0x10325476, 0xc3d2e1f0⟩

/-- A group of rounds: its function, its constant, and for each round the word it takes and
its rotation. -/
structure Group where
  combine : UInt32 -> UInt32 -> UInt32 -> UInt32
  constant : UInt32
  selected : List Nat
  rotations : List UInt32

private def parity (x y z : UInt32) : UInt32 := x ^^^ y ^^^ z

/-- The second or the third word, bit by bit as the first says. -/
private def choice (x y z : UInt32) : UInt32 := (x &&& y) ||| (~~~x &&& z)

/-- A mixture that complements the second word. -/
private def orNot (x y z : UInt32) : UInt32 := (x ||| ~~~y) ^^^ z

/-- The first or the second word, bit by bit as the third says. -/
private def lateChoice (x y z : UInt32) : UInt32 := (x &&& z) ||| (y &&& ~~~z)

/-- A mixture that complements the third word. -/
private def lateOrNot (x y z : UInt32) : UInt32 := x ^^^ (y ||| ~~~z)

def leftLine : List Group :=
  [⟨parity, 0x00000000,
      [0, 1, 2, 3, 4, 5, 6, 7, 8, 9, 10, 11, 12, 13, 14, 15],
      [11, 14, 15, 12, 5, 8, 7, 9, 11, 13, 14, 15, 6, 7, 9, 8]⟩,
    ⟨choice, 0x5a827999,
      [7, 4, 13, 1, 10, 6, 15, 3, 12, 0, 9, 5, 2, 14, 11, 8],
      [7, 6, 8, 13, 11, 9, 7, 15, 7, 12, 15, 9, 11, 7, 13, 12]⟩,
    ⟨orNot, 0x6ed9eba1,
      [3, 10, 14, 4, 9, 15, 8, 1, 2, 7, 0, 6, 13, 11, 5, 12],
      [11, 13, 6, 7, 14, 9, 13, 15, 14, 8, 13, 6, 5, 12, 7, 5]⟩,
    ⟨lateChoice, 0x8f1bbcdc,
      [1, 9, 11, 10, 0, 8, 12, 4, 13, 3, 7, 15, 14, 5, 6, 2],
      [11, 12, 14, 15, 14, 15, 9, 8, 9, 14, 5, 6, 8, 6, 5, 12]⟩,
    ⟨lateOrNot, 0xa953fd4e,
      [4, 0, 5, 9, 7, 12, 2, 10, 14, 1, 3, 8, 11, 6, 15, 13],
      [9, 15, 5, 11, 6, 8, 13, 12, 5, 12, 13, 14, 11, 8, 5, 6]⟩]

def rightLine : List Group :=
  [⟨lateOrNot, 0x50a28be6,
      [5, 14, 7, 0, 9, 2, 11, 4, 13, 6, 15, 8, 1, 10, 3, 12],
      [8, 9, 9, 11, 13, 15, 15, 5, 7, 7, 8, 11, 14, 14, 12, 6]⟩,
    ⟨lateChoice, 0x5c4dd124,
      [6, 11, 3, 7, 0, 13, 5, 10, 14, 15, 8, 12, 4, 9, 1, 2],
      [9, 13, 15, 7, 12, 8, 9, 11, 7, 7, 12, 7, 6, 15, 13, 11]⟩,
    ⟨orNot, 0x6d703ef3,
      [15, 5, 1, 3, 7, 14, 6, 9, 11, 8, 12, 2, 10, 0, 4, 13],
      [9, 7, 15, 11, 8, 6, 6, 14, 12, 13, 5, 14, 13, 13, 7, 5]⟩,
    ⟨choice, 0x7a6d76e9,
      [8, 6, 4, 1, 3, 11, 15, 0, 5, 12, 2, 13, 9, 7, 10, 14],
      [15, 5, 8, 11, 14, 14, 6, 14, 6, 9, 12, 9, 12, 5, 15, 8]⟩,
    ⟨parity, 0x00000000,
      [12, 15, 10, 4, 1, 5, 8, 7, 6, 2, 13, 14, 0, 3, 9, 11],
      [8, 5, 12, 9, 12, 5, 14, 6, 8, 13, 6, 5, 15, 13, 11, 11]⟩]

def round (group : Group) (taken rotation : UInt32) (state : State) : State :=
  let ⟨a, b, c, d, e⟩ := state
  ⟨e, rotateLeft (a + group.combine b c d + taken + group.constant) rotation + e, b,
    rotateLeft c 10, d⟩

/-- The rounds of one group over the words of a block. -/
def roundsOfGroup (block : Array UInt32) (state : State) (group : Group) : State :=
  (group.selected.zip group.rotations).foldl
    (fun state step => round group (block.getD step.1 0) step.2 state) state

/-- Mix one block into the chaining state: run both lines and cross them. -/
def compress (state : State) (block : Bytes) : State :=
  let taken := (words .leastFirst block).toArray
  let left := leftLine.foldl (roundsOfGroup taken) state
  let right := rightLine.foldl (roundsOfGroup taken) state
  ⟨state.b + left.c + right.d, state.c + left.d + right.e, state.d + left.e + right.a,
    state.e + left.a + right.b, state.a + left.b + right.c⟩

/-- The words of a state, least significant byte first. -/
def State.digest (state : State) : Bytes :=
  wordBytes .leastFirst state.a ++ wordBytes .leastFirst state.b ++ wordBytes .leastFirst state.c ++
  wordBytes .leastFirst state.d ++ wordBytes .leastFirst state.e

theorem length_digest (state : State) : state.digest.length = 20 := by
  simp [State.digest, length_wordBytes]

end Ripemd160

def ripemd160 (message : Bytes) : Bytes :=
  (absorb .leastFirst Ripemd160.compress Ripemd160.initial message).digest

end Hash
end SpendRules

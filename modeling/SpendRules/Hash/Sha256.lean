import SpendRules.Hash.Blocks
import SpendRules.Hash256

namespace SpendRules
namespace Hash
namespace Sha256

/-!
# SHA-256

A block is compressed in sixty-four rounds.  The message schedule is not stored: sixteen of
its words slide past, and each round takes the oldest and computes the one that follows the
newest.
-/

/-- The chaining state. -/
structure State where
  a : UInt32
  b : UInt32
  c : UInt32
  d : UInt32
  e : UInt32
  f : UInt32
  g : UInt32
  h : UInt32

/-- The state before the first block: the fractional parts of the square roots of the first
eight primes. -/
def initial : State :=
  ⟨0x6a09e667, 0xbb67ae85, 0x3c6ef372, 0xa54ff53a, 0x510e527f, 0x9b05688c, 0x1f83d9ab, 0x5be0cd19⟩

/-- One constant for each round: the fractional parts of the cube roots of the first
sixty-four primes. -/
def roundConstants : List UInt32 :=
  [0x428a2f98, 0x71374491, 0xb5c0fbcf, 0xe9b5dba5, 0x3956c25b, 0x59f111f1, 0x923f82a4, 0xab1c5ed5,
    0xd807aa98, 0x12835b01, 0x243185be, 0x550c7dc3, 0x72be5d74, 0x80deb1fe, 0x9bdc06a7, 0xc19bf174,
    0xe49b69c1, 0xefbe4786, 0x0fc19dc6, 0x240ca1cc, 0x2de92c6f, 0x4a7484aa, 0x5cb0a9dc, 0x76f988da,
    0x983e5152, 0xa831c66d, 0xb00327c8, 0xbf597fc7, 0xc6e00bf3, 0xd5a79147, 0x06ca6351, 0x14292967,
    0x27b70a85, 0x2e1b2138, 0x4d2c6dfc, 0x53380d13, 0x650a7354, 0x766a0abb, 0x81c2c92e, 0x92722c85,
    0xa2bfe8a1, 0xa81a664b, 0xc24b8b70, 0xc76c51a3, 0xd192e819, 0xd6990624, 0xf40e3585, 0x106aa070,
    0x19a4c116, 0x1e376c08, 0x2748774c, 0x34b0bcb5, 0x391c0cb3, 0x4ed8aa4a, 0x5b9cca4f, 0x682e6ff3,
    0x748f82ee, 0x78a5636f, 0x84c87814, 0x8cc70208, 0x90befffa, 0xa4506ceb, 0xbef9a3f7, 0xc67178f2]

/-- The schedule word that follows a window. -/
def nextWord (window : Window) : UInt32 :=
  let early := window.w1
  let late := window.w14
  let earlyMix := rotateRight early 7 ^^^ rotateRight early 18 ^^^ (early >>> 3)
  let lateMix := rotateRight late 17 ^^^ rotateRight late 19 ^^^ (late >>> 10)
  window.w0 + earlyMix + window.w9 + lateMix

def round (state : State) (scheduled constant : UInt32) : State :=
  let ⟨a, b, c, d, e, f, g, h⟩ := state
  let choice := (e &&& f) ^^^ (~~~e &&& g)
  let majority := (a &&& b) ^^^ (a &&& c) ^^^ (b &&& c)
  let first := h + (rotateRight e 6 ^^^ rotateRight e 11 ^^^ rotateRight e 25) + choice +
    constant + scheduled
  let second := (rotateRight a 2 ^^^ rotateRight a 13 ^^^ rotateRight a 22) + majority
  ⟨first + second, a, b, c, d + first, e, f, g⟩

/-- One round for each constant, the window moving along the schedule. -/
def rounds : List UInt32 -> Window -> State -> State
  | [], _, state => state
  | constant :: constants, window, state =>
    rounds constants (window.shift (nextWord window)) (round state window.w0 constant)

def compress (state : State) (block : Bytes) : State :=
  let mixed := rounds roundConstants (Window.ofBlock .mostFirst block) state
  ⟨state.a + mixed.a, state.b + mixed.b, state.c + mixed.c, state.d + mixed.d,
    state.e + mixed.e, state.f + mixed.f, state.g + mixed.g, state.h + mixed.h⟩

/-- The words of a state, most significant byte first. -/
def State.digest (state : State) : Hash256 where
  bytes :=
    wordBytes .mostFirst state.a ++ wordBytes .mostFirst state.b ++ wordBytes .mostFirst state.c ++
    wordBytes .mostFirst state.d ++ wordBytes .mostFirst state.e ++ wordBytes .mostFirst state.f ++
    wordBytes .mostFirst state.g ++ wordBytes .mostFirst state.h
  length_eq := by simp [length_wordBytes]

end Sha256

def sha256 (message : Bytes) : Hash256 :=
  (absorb .mostFirst Sha256.compress Sha256.initial message).digest

def doubleSha256 (message : Bytes) : Hash256 :=
  sha256 (sha256 message).bytes

end Hash
end SpendRules

import SpendRules.Hash.Blocks

namespace SpendRules
namespace Hash
namespace Sha1

/-!
# SHA-1

Eighty rounds in four groups of twenty.  A group fixes the boolean function and the constant
of its rounds.
-/

/-- The chaining state. -/
structure State where
  a : UInt32
  b : UInt32
  c : UInt32
  d : UInt32
  e : UInt32

def initial : State :=
  ⟨0x67452301, 0xefcdab89, 0x98badcfe, 0x10325476, 0xc3d2e1f0⟩

/-- A boolean function of three words and an additive constant. -/
structure Group where
  combine : UInt32 -> UInt32 -> UInt32 -> UInt32
  constant : UInt32

def groups : List Group :=
  [⟨fun b c d => (b &&& c) ||| (~~~b &&& d), 0x5a827999⟩,
    ⟨fun b c d => b ^^^ c ^^^ d, 0x6ed9eba1⟩,
    ⟨fun b c d => (b &&& c) ||| (b &&& d) ||| (c &&& d), 0x8f1bbcdc⟩,
    ⟨fun b c d => b ^^^ c ^^^ d, 0xca62c1d6⟩]

/-- The schedule word that follows a window. -/
def nextWord (window : Window) : UInt32 :=
  rotateLeft (window.w13 ^^^ window.w8 ^^^ window.w2 ^^^ window.w0) 1

def round (group : Group) (state : State) (scheduled : UInt32) : State :=
  let ⟨a, b, c, d, e⟩ := state
  ⟨rotateLeft a 5 + group.combine b c d + e + group.constant + scheduled, a, rotateLeft b 30, c, d⟩

/-- The given number of rounds of one group. -/
def roundsOfGroup (group : Group) : Nat -> Window × State -> Window × State
  | 0, progress => progress
  | count + 1, (window, state) =>
    roundsOfGroup group count (window.shift (nextWord window), round group state window.w0)

def compress (state : State) (block : Bytes) : State :=
  let start := (Window.ofBlock .mostFirst block, state)
  let mixed := (groups.foldl (fun progress group => roundsOfGroup group 20 progress) start).2
  ⟨state.a + mixed.a, state.b + mixed.b, state.c + mixed.c, state.d + mixed.d, state.e + mixed.e⟩

/-- The words of a state, most significant byte first. -/
def State.digest (state : State) : Bytes :=
  wordBytes .mostFirst state.a ++ wordBytes .mostFirst state.b ++ wordBytes .mostFirst state.c ++
  wordBytes .mostFirst state.d ++ wordBytes .mostFirst state.e

theorem length_digest (state : State) : state.digest.length = 20 := by
  simp [State.digest, length_wordBytes]

end Sha1

def sha1 (message : Bytes) : Bytes :=
  (absorb .mostFirst Sha1.compress Sha1.initial message).digest

end Hash
end SpendRules

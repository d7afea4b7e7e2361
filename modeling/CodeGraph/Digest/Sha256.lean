import CodeGraph.Bytes

/-!
# SHA-256

The message is padded to whole blocks, and each block stirs a state of eight
words in one round per constant.  The digest is the last state.
-/

namespace CodeGraph.Sha256

/-- The first bits of the fractional parts of the cube roots of the first
primes, one word per round. -/
def roundConstants : List UInt32 :=
  [0x428a2f98, 0x71374491, 0xb5c0fbcf, 0xe9b5dba5, 0x3956c25b, 0x59f111f1, 0x923f82a4, 0xab1c5ed5,
    0xd807aa98, 0x12835b01, 0x243185be, 0x550c7dc3, 0x72be5d74, 0x80deb1fe, 0x9bdc06a7, 0xc19bf174,
    0xe49b69c1, 0xefbe4786, 0x0fc19dc6, 0x240ca1cc, 0x2de92c6f, 0x4a7484aa, 0x5cb0a9dc, 0x76f988da,
    0x983e5152, 0xa831c66d, 0xb00327c8, 0xbf597fc7, 0xc6e00bf3, 0xd5a79147, 0x06ca6351, 0x14292967,
    0x27b70a85, 0x2e1b2138, 0x4d2c6dfc, 0x53380d13, 0x650a7354, 0x766a0abb, 0x81c2c92e, 0x92722c85,
    0xa2bfe8a1, 0xa81a664b, 0xc24b8b70, 0xc76c51a3, 0xd192e819, 0xd6990624, 0xf40e3585, 0x106aa070,
    0x19a4c116, 0x1e376c08, 0x2748774c, 0x34b0bcb5, 0x391c0cb3, 0x4ed8aa4a, 0x5b9cca4f, 0x682e6ff3,
    0x748f82ee, 0x78a5636f, 0x84c87814, 0x8cc70208, 0x90befffa, 0xa4506ceb, 0xbef9a3f7, 0xc67178f2]

/-- The eight words that a block stirs. -/
structure State where
  a : UInt32
  b : UInt32
  c : UInt32
  d : UInt32
  e : UInt32
  f : UInt32
  g : UInt32
  h : UInt32
  deriving DecidableEq, Repr

namespace State

/-- The first bits of the fractional parts of the square roots of the first
eight primes. -/
def start : State :=
  ⟨0x6a09e667, 0xbb67ae85, 0x3c6ef372, 0xa54ff53a, 0x510e527f, 0x9b05688c, 0x1f83d9ab, 0x5be0cd19⟩

/-- Word by word sum. -/
def add (left right : State) : State :=
  ⟨left.a + right.a, left.b + right.b, left.c + right.c, left.d + right.d,
    left.e + right.e, left.f + right.f, left.g + right.g, left.h + right.h⟩

/-- The words in order. -/
def words (state : State) : List UInt32 :=
  [state.a, state.b, state.c, state.d, state.e, state.f, state.g, state.h]

end State

/-- A word turned right. -/
def rotate (word count : UInt32) : UInt32 :=
  (word >>> count) ||| (word <<< (32 - count))

/-- The state after a round with a message word and a constant. -/
def round (state : State) (word constant : UInt32) : State :=
  let turned := rotate state.e 6 ^^^ rotate state.e 11 ^^^ rotate state.e 25
  let choice := (state.e &&& state.f) ^^^ (~~~state.e &&& state.g)
  let first := state.h + turned + choice + constant + word
  let majority := (state.a &&& state.b) ^^^ (state.a &&& state.c) ^^^ (state.b &&& state.c)
  let second := (rotate state.a 2 ^^^ rotate state.a 13 ^^^ rotate state.a 22) + majority
  ⟨first + second, state.a, state.b, state.c, state.d + first, state.e, state.f, state.g⟩

/-- The word that follows a window of sixteen message words. -/
def nextWord (window : List UInt32) : UInt32 :=
  let word (place : Nat) : UInt32 := window.getD place 0
  let near := rotate (word 14) 17 ^^^ rotate (word 14) 19 ^^^ (word 14 >>> 10)
  let far := rotate (word 1) 7 ^^^ rotate (word 1) 18 ^^^ (word 1 >>> 3)
  near + word 9 + far + word 0

/-- All rounds of a block.  The first word of the window is the message word of
the round; the window then moves on by one word. -/
def rounds : List UInt32 → State → List UInt32 → State
  | [], state, _ => state
  | constant :: constants, state, window =>
      rounds constants (round state (window.headD 0) constant) (window.tail ++ [nextWord window])

/-- The word whose bytes are given, most significant byte first. -/
def wordOfBytes (bytes : Bytes) : UInt32 :=
  UInt32.ofNat (Bytes.toNat bytes.reverse)

/-- Data cut into pieces of a positive size; the last piece may be shorter. -/
def pieces (size : Nat) (bytes : Bytes) : List Bytes :=
  if _more : bytes ≠ [] ∧ 0 < size then bytes.take size :: pieces size (bytes.drop size) else []
termination_by bytes.length
decreasing_by
  have nonempty := List.length_pos_iff.mpr _more.1
  simp only [List.length_drop]
  omega

/-- The state after a block of sixteen words. -/
def stir (state : State) (block : Bytes) : State :=
  state.add (rounds roundConstants state ((pieces 4 block).map wordOfBytes))

/-- The message followed by a mark, zeros and its length in bits, which fill the
last block. -/
def padded (message : Bytes) : Bytes :=
  let zeros := (119 - message.length % 64) % 64
  message ++ 0x80 :: List.replicate zeros 0 ++
    (Bytes.littleEndian 8 (8 * message.length)).reverse

def digest (message : Bytes) : Bytes :=
  ((pieces 64 (padded message)).foldl stir State.start).words.flatMap fun word =>
    (Bytes.littleEndian 4 word.toNat).reverse

end CodeGraph.Sha256

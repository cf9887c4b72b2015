/-!
# SHA-256

The hash function SHA-256 on lists of bytes.  The message is padded to blocks of sixteen words,
each block is stretched to sixty-four words, and these are mixed into the eight words of the state
one after the other.
-/

namespace MessageExpansion
namespace Digest
namespace Sha256

/-- The eight working words. -/
structure State where
  a : UInt32
  b : UInt32
  c : UInt32
  d : UInt32
  e : UInt32
  f : UInt32
  g : UInt32
  h : UInt32

/-- The state before the first block: fractional parts of the square roots of primes. -/
def initial : State :=
  ⟨0x6a09e667, 0xbb67ae85, 0x3c6ef372, 0xa54ff53a, 0x510e527f, 0x9b05688c, 0x1f83d9ab, 0x5be0cd19⟩

/-- The constants of the sixty-four rounds: fractional parts of the cube roots of primes. -/
def roundConstants : List UInt32 := [
  0x428a2f98, 0x71374491, 0xb5c0fbcf, 0xe9b5dba5, 0x3956c25b, 0x59f111f1, 0x923f82a4, 0xab1c5ed5,
  0xd807aa98, 0x12835b01, 0x243185be, 0x550c7dc3, 0x72be5d74, 0x80deb1fe, 0x9bdc06a7, 0xc19bf174,
  0xe49b69c1, 0xefbe4786, 0x0fc19dc6, 0x240ca1cc, 0x2de92c6f, 0x4a7484aa, 0x5cb0a9dc, 0x76f988da,
  0x983e5152, 0xa831c66d, 0xb00327c8, 0xbf597fc7, 0xc6e00bf3, 0xd5a79147, 0x06ca6351, 0x14292967,
  0x27b70a85, 0x2e1b2138, 0x4d2c6dfc, 0x53380d13, 0x650a7354, 0x766a0abb, 0x81c2c92e, 0x92722c85,
  0xa2bfe8a1, 0xa81a664b, 0xc24b8b70, 0xc76c51a3, 0xd192e819, 0xd6990624, 0xf40e3585, 0x106aa070,
  0x19a4c116, 0x1e376c08, 0x2748774c, 0x34b0bcb5, 0x391c0cb3, 0x4ed8aa4a, 0x5b9cca4f, 0x682e6ff3,
  0x748f82ee, 0x78a5636f, 0x84c87814, 0x8cc70208, 0x90befffa, 0xa4506ceb, 0xbef9a3f7, 0xc67178f2]

/-- A word rotated to the right. -/
def rotateRight (word amount : UInt32) : UInt32 :=
  (word >>> amount) ||| (word <<< (32 - amount))

/-- The mixture of earlier words that the stretching of a block adds from two places back. -/
def lateMix (word : UInt32) : UInt32 :=
  rotateRight word 17 ^^^ rotateRight word 19 ^^^ (word >>> 10)

/-- The mixture of earlier words that the stretching of a block adds from fifteen places back. -/
def earlyMix (word : UInt32) : UInt32 :=
  rotateRight word 7 ^^^ rotateRight word 18 ^^^ (word >>> 3)

/-- Stretch a block by `count` words; the words so far stand in `words`, the latest first. -/
def stretch : (count : Nat) → (words : List UInt32) → List UInt32
  | 0, words => words
  | count + 1, words =>
      let word := lateMix (words.getD 1 0) + words.getD 6 0 + earlyMix (words.getD 14 0) +
        words.getD 15 0
      stretch count (word :: words)

/-- One round: mix a constant and a word of the block into the state. -/
def round (state : State) (constant word : UInt32) : State :=
  let choice := (state.e &&& state.f) ^^^ (~~~state.e &&& state.g)
  let majority := (state.a &&& state.b) ^^^ (state.a &&& state.c) ^^^ (state.b &&& state.c)
  let high := rotateRight state.a 2 ^^^ rotateRight state.a 13 ^^^ rotateRight state.a 22
  let low := rotateRight state.e 6 ^^^ rotateRight state.e 11 ^^^ rotateRight state.e 25
  let first := state.h + low + choice + constant + word
  let second := high + majority
  ⟨first + second, state.a, state.b, state.c, state.d + first, state.e, state.f, state.g⟩

/-- The state after all rounds of one block. -/
def rounds : State → List UInt32 → List UInt32 → State
  | state, constant :: constants, word :: words =>
      rounds (round state constant word) constants words
  | state, _, _ => state

/-- The state after a block. -/
def absorb (state : State) (block : List UInt32) : State :=
  let mixed := rounds state roundConstants (stretch 48 block.reverse).reverse
  ⟨state.a + mixed.a, state.b + mixed.b, state.c + mixed.c, state.d + mixed.d,
    state.e + mixed.e, state.f + mixed.f, state.g + mixed.g, state.h + mixed.h⟩

/-- The message followed by a one bit, zeros, and its length in bits, in whole blocks. -/
def pad (message : List UInt8) : List UInt8 :=
  let zeros := (119 - message.length % 64) % 64
  let bits := 8 * message.length
  let length : List UInt8 :=
    [56, 48, 40, 32, 24, 16, 8, 0].map fun shift => UInt8.ofNat (bits >>> shift)
  message ++ ([0x80] ++ List.replicate zeros 0 ++ length)

/-- Bytes taken together in fours, the most significant first. -/
def words : List UInt8 → List UInt32
  | a :: b :: c :: d :: rest =>
      ((a.toUInt32 <<< 24) ||| (b.toUInt32 <<< 16) ||| (c.toUInt32 <<< 8) ||| d.toUInt32) ::
        words rest
  | _ => []

/-- Absorb `count` blocks of sixteen words. -/
def absorbAll : (count : Nat) → State → List UInt32 → State
  | 0, state, _ => state
  | count + 1, state, message => absorbAll count (absorb state (message.take 16)) (message.drop 16)

/-- The state after a whole message. -/
def final (message : List UInt8) : State :=
  let padded := words (pad message)
  absorbAll (padded.length / 16) initial padded

end Sha256

/-- A number below 2³² as eight hexadecimal digits. -/
def hexWord (word : UInt32) : List Char :=
  [28, 24, 20, 16, 12, 8, 4, 0].map fun shift => Nat.digitChar ((word.toNat >>> shift) % 16)

/-- The first eight hexadecimal digits of the SHA-256 hash of a text. -/
def shortHash (text : String) : String :=
  String.ofList (hexWord (Sha256.final text.toUTF8.toList).a)

end Digest
end MessageExpansion

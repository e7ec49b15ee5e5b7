import StartOnReady.Text.Hex

/-!
# SHA-256

A message is padded to whole blocks of sixteen words.  Each block is stretched to sixty-four words,
one for each round, and the state after the rounds is added to the state before.
-/

namespace StartOnReady.Digest

/-- The eight words of the state. -/
structure Sha256 where
  (a b c d e f g h : UInt32)
  deriving DecidableEq, Repr

/-- The bits of a word moved cyclically to the right by `n`, for `0 < n < 32`. -/
def rotated (x n : UInt32) : UInt32 := (x >>> n) ||| (x <<< (32 - n))

/-- The constants of the rounds: fractions of the cube roots of the first primes. -/
def roundConstants : List UInt32 :=
  [ 0x428a2f98, 0x71374491, 0xb5c0fbcf, 0xe9b5dba5, 0x3956c25b, 0x59f111f1, 0x923f82a4, 0xab1c5ed5,
    0xd807aa98, 0x12835b01, 0x243185be, 0x550c7dc3, 0x72be5d74, 0x80deb1fe, 0x9bdc06a7, 0xc19bf174,
    0xe49b69c1, 0xefbe4786, 0x0fc19dc6, 0x240ca1cc, 0x2de92c6f, 0x4a7484aa, 0x5cb0a9dc, 0x76f988da,
    0x983e5152, 0xa831c66d, 0xb00327c8, 0xbf597fc7, 0xc6e00bf3, 0xd5a79147, 0x06ca6351, 0x14292967,
    0x27b70a85, 0x2e1b2138, 0x4d2c6dfc, 0x53380d13, 0x650a7354, 0x766a0abb, 0x81c2c92e, 0x92722c85,
    0xa2bfe8a1, 0xa81a664b, 0xc24b8b70, 0xc76c51a3, 0xd192e819, 0xd6990624, 0xf40e3585, 0x106aa070,
    0x19a4c116, 0x1e376c08, 0x2748774c, 0x34b0bcb5, 0x391c0cb3, 0x4ed8aa4a, 0x5b9cca4f, 0x682e6ff3,
    0x748f82ee, 0x78a5636f, 0x84c87814, 0x8cc70208, 0x90befffa, 0xa4506ceb, 0xbef9a3f7, 0xc67178f2 ]

namespace Sha256

/-- The first state: fractions of the square roots of the first primes. -/
def initial : Sha256 :=
  ⟨ 0x6a09e667, 0xbb67ae85, 0x3c6ef372, 0xa54ff53a,
    0x510e527f, 0x9b05688c, 0x1f83d9ab, 0x5be0cd19 ⟩

/-! ### Padding -/

/-- The zero bytes behind the mark, so that the length ends a block. -/
def zeros (size : Nat) : Nat := (119 - size % 64) % 64

/-- The last `count` bytes of a number, the highest first. -/
def bigEndian : (count : Nat) → Nat → List UInt8
  | 0, _ => []
  | count + 1, n => bigEndian count (n / 256) ++ [UInt8.ofNat n]

/-- The message with its mark, the zeros and its length in bits. -/
def padded (message : List UInt8) : List UInt8 :=
  message ++ 0x80 :: List.replicate (zeros message.length) 0 ++ bigEndian 8 (8 * message.length)

/-- Four bytes make a word. -/
def words : List UInt8 → List UInt32
  | a :: b :: c :: d :: rest =>
    (a.toUInt32 <<< 24 ||| b.toUInt32 <<< 16 ||| c.toUInt32 <<< 8 ||| d.toUInt32) :: words rest
  | _ => []

/-! ### Rounds -/

/-- The word that follows a window of sixteen. -/
def nextWord (window : List UInt32) : UInt32 :=
  let early := window.getD 1 0
  let late := window.getD 14 0
  window.getD 0 0 + (rotated early 7 ^^^ rotated early 18 ^^^ (early >>> 3)) + window.getD 9 0 +
    (rotated late 17 ^^^ rotated late 19 ^^^ (late >>> 10))

/-- The first `count` words that a window grows into. -/
def schedule : (count : Nat) → (window : List UInt32) → List UInt32
  | 0, _ => []
  | count + 1, window =>
    window.getD 0 0 :: schedule count (window.drop 1 ++ [nextWord window])

/-- One round, with the sum of its constant and its word. -/
def round (s : Sha256) (input : UInt32) : Sha256 :=
  let choice := (s.e &&& s.f) ^^^ (~~~s.e &&& s.g)
  let majority := (s.a &&& s.b) ^^^ (s.a &&& s.c) ^^^ (s.b &&& s.c)
  let first := s.h + (rotated s.e 6 ^^^ rotated s.e 11 ^^^ rotated s.e 25) + choice + input
  let second := (rotated s.a 2 ^^^ rotated s.a 13 ^^^ rotated s.a 22) + majority
  ⟨first + second, s.a, s.b, s.c, s.d + first, s.e, s.f, s.g⟩

/-- Word by word. -/
def add (s t : Sha256) : Sha256 :=
  ⟨s.a + t.a, s.b + t.b, s.c + t.c, s.d + t.d, s.e + t.e, s.f + t.f, s.g + t.g, s.h + t.h⟩

/-- Takes in one block. -/
def takeBlock (s : Sha256) (block : List UInt32) : Sha256 :=
  s.add ((List.zipWith (· + ·) roundConstants (schedule 64 block)).foldl round s)

/-- Takes in the first `count` blocks. -/
def takeBlocks : (count : Nat) → (input : List UInt32) → Sha256 → Sha256
  | 0, _, s => s
  | count + 1, input, s => takeBlocks count (input.drop 16) (s.takeBlock (input.take 16))

/-- The digest of a message. -/
def ofMessage (message : List UInt8) : Sha256 :=
  let input := words (padded message)
  takeBlocks (input.length / 16) input initial

/-- The words of a digest in their order. -/
def toList (s : Sha256) : List UInt32 := [s.a, s.b, s.c, s.d, s.e, s.f, s.g, s.h]

/-- The digest as sixty-four hexadecimal digits. -/
def hexDigits (s : Sha256) : List Char := s.toList.flatMap fun w => Text.hexPadded 8 w.toNat

end Sha256

end StartOnReady.Digest

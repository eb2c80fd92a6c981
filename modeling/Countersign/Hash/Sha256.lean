/-
# SHA-256

The hash of a byte string: the padded message is cut into blocks of 64 bytes, and each block
stirs eight 32-bit words. The message is padded with one set bit, zeros, and its length in bits
as eight bytes, so that the padded length is a multiple of 64.
-/

import Countersign.Bytes.BigEndian

namespace Countersign.Sha256

/-- The first 32 bits of the fractional parts of the cube roots of the first 64 primes. -/
def roundConstants : List UInt32 :=
  [0x428a2f98, 0x71374491, 0xb5c0fbcf, 0xe9b5dba5, 0x3956c25b, 0x59f111f1, 0x923f82a4, 0xab1c5ed5,
   0xd807aa98, 0x12835b01, 0x243185be, 0x550c7dc3, 0x72be5d74, 0x80deb1fe, 0x9bdc06a7, 0xc19bf174,
   0xe49b69c1, 0xefbe4786, 0x0fc19dc6, 0x240ca1cc, 0x2de92c6f, 0x4a7484aa, 0x5cb0a9dc, 0x76f988da,
   0x983e5152, 0xa831c66d, 0xb00327c8, 0xbf597fc7, 0xc6e00bf3, 0xd5a79147, 0x06ca6351, 0x14292967,
   0x27b70a85, 0x2e1b2138, 0x4d2c6dfc, 0x53380d13, 0x650a7354, 0x766a0abb, 0x81c2c92e, 0x92722c85,
   0xa2bfe8a1, 0xa81a664b, 0xc24b8b70, 0xc76c51a3, 0xd192e819, 0xd6990624, 0xf40e3585, 0x106aa070,
   0x19a4c116, 0x1e376c08, 0x2748774c, 0x34b0bcb5, 0x391c0cb3, 0x4ed8aa4a, 0x5b9cca4f, 0x682e6ff3,
   0x748f82ee, 0x78a5636f, 0x84c87814, 0x8cc70208, 0x90befffa, 0xa4506ceb, 0xbef9a3f7, 0xc67178f2]

/-- The eight words that are carried from block to block. -/
structure Words where
  a : UInt32
  b : UInt32
  c : UInt32
  d : UInt32
  e : UInt32
  f : UInt32
  g : UInt32
  h : UInt32
  deriving DecidableEq, Repr

namespace Words

/-- The first 32 bits of the fractional parts of the square roots of the first eight primes. -/
def initial : Words :=
  ⟨0x6a09e667, 0xbb67ae85, 0x3c6ef372, 0xa54ff53a, 0x510e527f, 0x9b05688c, 0x1f83d9ab, 0x5be0cd19⟩

/-- The words added one by one. -/
def add (x y : Words) : Words :=
  ⟨x.a + y.a, x.b + y.b, x.c + y.c, x.d + y.d, x.e + y.e, x.f + y.f, x.g + y.g, x.h + y.h⟩

/-- The words as bytes. -/
def toBytes (words : Words) : Bytes :=
  [words.a, words.b, words.c, words.d, words.e, words.f, words.g, words.h].flatMap
    fun word => BigEndian.fixed 4 word.toNat

end Words

/-- The bits of a word moved right in a circle. -/
def rotateRight (word : UInt32) (count : UInt32) : UInt32 :=
  (word >>> count) ||| (word <<< (32 - count))

/-- One round: a message word and the constant of the round stir the words. -/
def round (words : Words) (message : UInt32 × UInt32) : Words :=
  let sum1 := rotateRight words.e 6 ^^^ rotateRight words.e 11 ^^^ rotateRight words.e 25
  let choice := (words.e &&& words.f) ^^^ ((~~~ words.e) &&& words.g)
  let first := words.h + sum1 + choice + message.1 + message.2
  let sum0 := rotateRight words.a 2 ^^^ rotateRight words.a 13 ^^^ rotateRight words.a 22
  let majority := (words.a &&& words.b) ^^^ (words.a &&& words.c) ^^^ (words.b &&& words.c)
  ⟨first + (sum0 + majority), words.a, words.b, words.c, words.d + first, words.e, words.f, words.g⟩

/-- Extends the message words, which are kept newest first, by the next one. -/
def nextMessageWord (words : List UInt32) : List UInt32 :=
  let back := fun (steps : Nat) => words.getD (steps - 1) 0
  let x := back 15
  let y := back 2
  let small0 := rotateRight x 7 ^^^ rotateRight x 18 ^^^ (x >>> 3)
  let small1 := rotateRight y 17 ^^^ rotateRight y 19 ^^^ (y >>> 10)
  (back 16 + small0 + back 7 + small1) :: words

/-- The 64 message words of a block, given its sixteen words. -/
def schedule (block : List UInt32) : List UInt32 :=
  (Nat.repeat nextMessageWord 48 block.reverse).reverse

/-- What a block does to the words. -/
def compress (words : Words) (block : List UInt32) : Words :=
  words.add (((schedule block).zip roundConstants).foldl round words)

/-- The message with its padding. -/
def padded (message : Bytes) : Bytes :=
  let zeros := (119 - message.length % 64) % 64
  message ++ 0x80 :: List.replicate zeros 0 ++ BigEndian.fixed 8 (8 * message.length)

/-- The bytes in groups of four, each a word; an incomplete group is left out. -/
def wordsOf : Bytes → List UInt32
  | p :: q :: r :: s :: rest =>
    (p.toUInt32 <<< 24 ||| q.toUInt32 <<< 16 ||| r.toUInt32 <<< 8 ||| s.toUInt32) :: wordsOf rest
  | _ => []

/-- Compresses `count` blocks of sixteen words one after the other. -/
def compressBlocks : (count : Nat) → Words → List UInt32 → Words
  | 0, words, _ => words
  | count + 1, words, message =>
    compressBlocks count (compress words (message.take 16)) (message.drop 16)

/-- The hash of a byte string, 32 bytes. -/
def hash (message : Bytes) : Bytes :=
  let message := wordsOf (padded message)
  (compressBlocks (message.length / 16) .initial message).toBytes

/-- The length of a hash. -/
theorem length_hash (message : Bytes) : (hash message).length = 32 := by
  simp [hash, Words.toBytes]

end Countersign.Sha256

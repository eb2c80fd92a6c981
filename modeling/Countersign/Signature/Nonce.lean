/-
# Nonces for signatures

A signature needs a number that nobody can guess and that is never used twice. It is drawn from a
generator seeded with the secret key, the hash of the message and fresh entropy: without entropy
it is determined by key and message alone, and with it every signature differs. The generator is
asked again until its answer is in range.
-/

import Countersign.Hash.Hmac

namespace Countersign.Nonce

/-- The state of the generator: a key and a value, each as long as a hash. -/
structure Generator where
  key : Bytes
  value : Bytes
  deriving DecidableEq, Repr

namespace Generator

/-- Stirs material into the key, with a byte that separates the rounds. -/
def stir (generator : Generator) (round : UInt8) (material : Bytes) : Generator :=
  let key := Hmac.hash generator.key (generator.value ++ round :: material)
  ⟨key, Hmac.hash key generator.value⟩

/-- The generator seeded with this material. -/
def seed (material : Bytes) : Generator :=
  let start : Generator := ⟨List.replicate 32 0, List.replicate 32 1⟩
  (start.stir 0x00 material).stir 0x01 material

/-- The next value of the generator. -/
def next (generator : Generator) : Generator :=
  { generator with value := Hmac.hash generator.key generator.value }

end Generator

/-- Draws at most `limit` values until one lies strictly between zero and the bound. -/
def draw (bound : Nat) : (limit : Nat) → Generator → Option Nat
  | 0, _ => none
  | limit + 1, generator =>
    let generator := generator.next
    let candidate := BigEndian.value generator.value
    if 0 < candidate ∧ candidate < bound then some candidate
    else draw bound limit (generator.stir 0x00 [])

/-- The nonce for a secret and a digest, both below the order. The order of a supported curve is
so close to the largest candidate that a few draws always suffice in practice; one stands in for
the case that none of them is in range. -/
def generate (order secret digest : Nat) (entropy : Bytes) : Nat :=
  let material := BigEndian.fixed 32 secret ++ BigEndian.fixed 32 digest ++ entropy
  (draw order 64 (Generator.seed material)).getD 1

end Countersign.Nonce

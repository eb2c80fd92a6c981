/-
# Keyed hashes

The hash of a message under a secret key, built from SHA-256: the key is mixed into an inner and
an outer hash.
-/

import Countersign.Hash.Sha256

namespace Countersign.Hmac

/-- The length of a block of the hash. -/
def blockLength : Nat := 64

/-- The key brought to the length of a block. -/
def blockKey (key : Bytes) : Bytes :=
  let short := if blockLength < key.length then Sha256.hash key else key
  short ++ List.replicate (blockLength - short.length) 0

/-- The keyed hash of a message. -/
def hash (key message : Bytes) : Bytes :=
  let key := blockKey key
  let inner := Sha256.hash (key.map (· ^^^ 0x36) ++ message)
  Sha256.hash (key.map (· ^^^ 0x5c) ++ inner)

end Countersign.Hmac

/-
# Fields at the front of a byte string

The formats of this library are sequences of fields: single bytes, runs of known length, and
elements behind a one-byte length. Each reader here returns its field and the bytes after it.
-/

import Countersign.Bytes.BigEndian
import Countersign.Wire.Error

namespace Countersign.Field

/-- The first byte. -/
def byte : Bytes → Except WireError (UInt8 × Bytes)
  | [] => .error .invalidLength
  | first :: rest => .ok (first, rest)

/-- The first `count` bytes. -/
def run (count : Nat) (bytes : Bytes) : Except WireError (Bytes × Bytes) :=
  if bytes.length < count then .error .invalidLength
  else .ok (bytes.take count, bytes.drop count)

/-- The element behind a one-byte length. -/
def prefixed : Bytes → Except WireError (Bytes × Bytes)
  | [] => .error .invalidLength
  | length :: rest => run length.toNat rest

/-- The element behind a one-byte length, as text. -/
def prefixedText (bytes : Bytes) : Except WireError (String × Bytes) :=
  match prefixed bytes with
  | .error cause => .error cause
  | .ok (element, rest) =>
    match Bytes.toText? element with
    | none => .error .invalidUtf8
    | some text => .ok (text, rest)

end Countersign.Field

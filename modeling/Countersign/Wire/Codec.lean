/-
# Wire types

A wire type announces the size of each value, writes the value into a buffer, and reads values
from the front of a byte string. Announcing and writing are given separately; that they agree is
a theorem about each type and not built into this interface.
-/

import Countersign.Wire.Buffer

namespace Countersign

/-- Values that can be written into a buffer. -/
class Encode (α : Type) where
  /-- The number of bytes that writing the value takes. -/
  encodedLength : α → Except WireError Nat
  /-- Writes the value at the front of the room. -/
  write : α → Buffer → Except WireError Buffer

/-- Values that can be read from the front of a byte string. -/
class Decode (α : Type) where
  /-- The value at the front, and the bytes after it. -/
  read : Bytes → Except WireError (α × Bytes)

variable {α : Type}

/-- Writes a value into the given buffer: the number of bytes written, and the whole buffer. -/
def encodeInto [Encode α] (value : α) (target : Bytes) : Except WireError (Nat × Bytes) :=
  match Encode.write value (Buffer.untouched target) with
  | .ok buffer => .ok (buffer.written.length, buffer.content)
  | .error cause => .error cause

/-- Writes a value into a fresh buffer of the announced size. -/
def encode [Encode α] (value : α) : Except WireError Bytes :=
  match Encode.encodedLength value with
  | .error cause => .error cause
  | .ok size =>
    match encodeInto value (List.replicate size 0) with
    | .error cause => .error cause
    | .ok (count, buffer) => .ok (buffer.take count)

/-- The value at the front of a byte string, and how many bytes it takes. -/
def decode [Decode α] (bytes : Bytes) : Except WireError (α × Nat) :=
  match Decode.read bytes with
  | .ok (value, rest) => .ok (value, bytes.length - rest.length)
  | .error cause => .error cause

/-- The value that takes up a whole byte string, if there is one. -/
def decodeWhole? [Decode α] (bytes : Bytes) : Option α :=
  match Decode.read bytes with
  | .ok (value, []) => some value
  | _ => none

end Countersign

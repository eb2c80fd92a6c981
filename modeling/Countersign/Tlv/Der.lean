/-
# Minimal DER numbers

Tags and lengths of records are numbers of at most 64 bits in the shortest DER form: a value
below `0x80` is its own byte, a larger one follows a byte `0x80 + k` as `k` big-endian bytes.
Reading refuses every other spelling, so each number has one form.
-/

import Countersign.Bytes.BigEndian
import Countersign.Wire.Buffer

namespace Countersign.Der

/-- How many bytes the form of a number takes. -/
def encodedLength (number : UInt64) : Nat :=
  if number < 0x80 then 1 else 1 + BigEndian.minimalWidth number.toNat

/-- The form of a number. -/
def encode (number : UInt64) : Bytes :=
  if number < 0x80 then [number.toUInt8]
  else
    let digits := BigEndian.minimal number.toNat
    (0x80 ||| UInt8.ofNat digits.length) :: digits

/-- Writes the form of a number. -/
def write (number : UInt64) (buffer : Buffer) : Except WireError Buffer :=
  if buffer.room.length < encodedLength number then .error .invalidLength
  else buffer.put (encode number)

/-- The number at the front of a byte string, and the bytes after it. -/
def read : Bytes → Except WireError (UInt64 × Bytes)
  | [] => .error .invalidLength
  | first :: rest =>
    if first < 0x80 then .ok (first.toUInt64, rest)
    else
      let width := (first &&& 0x7f).toNat
      if width = 0 ∨ 8 < width then .error .invalidEncoding
      else if rest.length < width then .error .invalidLength
      else
        let digits := rest.take width
        let number := BigEndian.value digits
        if digits.head? = some 0 ∨ number < 0x80 then .error .invalidEncoding
        else .ok (UInt64.ofNat number, rest.drop width)

/-- The number at the front of a byte string, and how many bytes it takes. -/
def decode (bytes : Bytes) : Except WireError (UInt64 × Nat) :=
  match read bytes with
  | .ok (number, rest) => .ok (number, bytes.length - rest.length)
  | .error cause => .error cause

end Countersign.Der

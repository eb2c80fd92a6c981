/-
# Buffers filled from the front

An encoder writes into a buffer of fixed size, one element after the other, and never past its
end. A buffer is kept as the part already written and the room that is left; what was in the
room before stays there until it is overwritten.
-/

import Countersign.Bytes
import Countersign.Wire.Error

namespace Countersign

/-- A buffer of fixed size that is being filled from the front. -/
structure Buffer where
  /-- What has been written so far. -/
  written : Bytes
  /-- The bytes not yet overwritten. -/
  room : Bytes
  deriving DecidableEq, Repr

/-- The longest element that a one-byte length prefix can announce. -/
def maxPrefixed : Nat := 255

namespace Buffer

/-- A buffer of which nothing is written yet. -/
def untouched (target : Bytes) : Buffer :=
  ⟨[], target⟩

/-- All bytes of the buffer, written or not. -/
def content (buffer : Buffer) : Bytes :=
  buffer.written ++ buffer.room

/-- Writes bytes, if there is room for all of them. -/
def put (bytes : Bytes) (buffer : Buffer) : Except WireError Buffer :=
  if buffer.room.length < bytes.length then .error .invalidLength
  else .ok ⟨buffer.written ++ bytes, buffer.room.drop bytes.length⟩

/-- Writes a one-byte length and then the bytes. An element that is too long for its prefix is
refused before the room is looked at. -/
def putPrefixed (bytes : Bytes) (buffer : Buffer) : Except WireError Buffer :=
  if maxPrefixed < bytes.length then .error (.elementTooLong bytes.length)
  else buffer.put (UInt8.ofNat bytes.length :: bytes)

end Buffer

/-- The size of an element behind a one-byte length prefix. -/
def prefixedLength (bytes : Bytes) : Except WireError Nat :=
  if maxPrefixed < bytes.length then .error (.elementTooLong bytes.length)
  else .ok (bytes.length + 1)

end Countersign

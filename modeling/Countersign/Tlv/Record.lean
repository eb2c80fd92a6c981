/-
# Tag-length-value records

A record is a tag, the length of its value, and the value; tag and length are minimal DER
numbers. A value is given as a number, as text or as bytes, and always travels as bytes: a number
takes as few of them as hold it.
-/

import Countersign.Tlv.Der
import Countersign.Tlv.FieldTag
import Countersign.Wire.Codec

namespace Countersign

/-- What a record can be asked to carry. -/
inductive TlvValue where
  /-- An unsigned number, written in as few bytes as hold it. -/
  | int (number : UInt64)
  /-- A text, written in UTF-8. -/
  | text (text : String)
  /-- Bytes as they are. -/
  | bytes (bytes : Bytes)
  deriving DecidableEq, Repr

namespace TlvValue

/-- The bytes that stand for a value. -/
def toBytes : TlvValue → Bytes
  | int number => BigEndian.minimal number.toNat
  | text content => Bytes.ofText content
  | bytes content => content

/-- How many bytes stand for a value. -/
def length : TlvValue → Nat
  | int number => BigEndian.minimalWidth number.toNat
  | text content => content.utf8ByteSize
  | bytes content => content.length

/-- Whether no byte stands for a value; numbers are never empty. -/
def isEmpty (value : TlvValue) : Bool :=
  value.length == 0

/-- Writes the bytes that stand for a value. -/
def write (value : TlvValue) (buffer : Buffer) : Except WireError Buffer :=
  if buffer.room.length < value.length then .error .invalidLength
  else buffer.put value.toBytes

/-- Writes a value into the given buffer: the number of bytes written, and the whole buffer. -/
def writeInto (value : TlvValue) (target : Bytes) : Except WireError (Nat × Bytes) :=
  match value.write (Buffer.untouched target) with
  | .ok buffer => .ok (buffer.written.length, buffer.content)
  | .error cause => .error cause

end TlvValue

/-- A record as it stands in a byte string. -/
structure Tlv where
  /-- Which field this is; any 64-bit number can occur. -/
  tag : UInt64
  /-- The value, uninterpreted. -/
  value : Bytes
  deriving DecidableEq, Repr

namespace Tlv

/-- The record that carries a value under a tag. -/
def format (tag : UInt64) (value : TlvValue) : Bytes :=
  Der.encode tag ++ Der.encode (UInt64.ofNat value.length) ++ value.toBytes

/-- What is logged when a record is built: a tag that needs more than one byte is unusual. -/
def formatWarnings (tag : UInt64) : List String :=
  if tag < 0x80 then []
  else
    ["TLV tag " ++ Text.hexNumber 1 tag.toNat ++
      " uses long-form DER encoding, check verifier support"]

/-- The record of a known field. -/
def ofField (field : FieldTag) (value : TlvValue) : Bytes :=
  format field.code.toUInt64 value

/-- The known field that the tag stands for. A larger tag never stands for one, even where its
last byte does. -/
def field? (record : Tlv) : Option FieldTag :=
  if record.tag < 0x100 then FieldTag.ofCode? record.tag.toUInt8 else none

/-- The value as a big-endian number of one to eight bytes; leading zeros are no fault here. -/
def asInt (record : Tlv) : Except WireError UInt64 :=
  if record.value.isEmpty ∨ 8 < record.value.length then .error .invalidEncoding
  else .ok (UInt64.ofNat (BigEndian.value record.value))

/-- The value as text. -/
def asText (record : Tlv) : Except WireError String :=
  match Bytes.toText? record.value with
  | some content => .ok content
  | none => .error .invalidUtf8

/-- The value as a number of a single byte. -/
def asByte (record : Tlv) : Except WireError UInt8 :=
  match record.asInt with
  | .error cause => .error cause
  | .ok number => if number < 0x100 then .ok number.toUInt8 else .error .invalidEncoding

/-- The record at the front of a byte string, and the bytes after it. -/
def read (bytes : Bytes) : Except WireError (Tlv × Bytes) := do
  let (tag, rest) ← Der.read bytes
  let (length, rest) ← Der.read rest
  if rest.length < length.toNat then .error .invalidLength
  else .ok (⟨tag, rest.take length.toNat⟩, rest.drop length.toNat)

instance : Encode Tlv where
  encodedLength record :=
    .ok (Der.encodedLength record.tag + Der.encodedLength (UInt64.ofNat record.value.length) +
      record.value.length)
  write record buffer := do
    let buffer ← Der.write record.tag buffer
    let buffer ← Der.write (UInt64.ofNat record.value.length) buffer
    buffer.put record.value

instance : Decode Tlv where
  read := read

end Tlv

end Countersign

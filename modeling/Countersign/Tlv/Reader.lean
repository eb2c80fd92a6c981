/-
# Reading a sequence of records

A reader walks over a byte string record by record and knows how far it has come. A malformed
record ends the walk: it is reported once, and the reader then stands at the end.
-/

import Countersign.Tlv.Record

namespace Countersign.Tlv

/-- A walk over the records of a byte string. -/
structure Reader where
  /-- The whole byte string. -/
  buffer : Bytes
  /-- Where the next record starts. -/
  offset : Nat
  deriving DecidableEq, Repr

namespace Reader

/-- A walk that starts at the first byte. -/
def start (buffer : Bytes) : Reader :=
  ⟨buffer, 0⟩

/-- The next record, or the refusal that ends the walk, with the reader after it. Nothing is
left to report at the end of the byte string. -/
def next (reader : Reader) : Option (Except WireError Tlv × Reader) :=
  if reader.buffer.length ≤ reader.offset then none
  else
    match Tlv.read (reader.buffer.drop reader.offset) with
    | .ok (record, rest) =>
      some (.ok record, { reader with offset := reader.buffer.length - rest.length })
    | .error cause => some (.error cause, { reader with offset := reader.buffer.length })

/-- The items of at most `limit` steps, each with the offset after it, and the reader left. -/
def itemsWithin : (limit : Nat) → Reader → List (Except WireError Tlv × Nat) × Reader
  | 0, reader => ([], reader)
  | limit + 1, reader =>
    match reader.next with
    | none => ([], reader)
    | some (item, after) =>
      let (items, last) := itemsWithin limit after
      ((item, after.offset) :: items, last)

/-- Everything the walk reports. Every record takes at least one byte, so the length of the byte
string bounds the number of steps. -/
def items (buffer : Bytes) : List (Except WireError Tlv × Nat) × Reader :=
  itemsWithin buffer.length (start buffer)

end Reader

end Countersign.Tlv

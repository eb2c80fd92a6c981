/-
# Byte strings

Everything this library signs, sends or reads is a finite list of bytes. Text enters the
wire only as its UTF-8 form, so the two directions between text and bytes are fixed here:
every text has bytes, and exactly the well-formed byte strings have a text.
-/

namespace Countersign

/-- A byte string, first byte first. -/
abbrev Bytes := List UInt8

namespace Bytes

/-- The UTF-8 form of a text. -/
def ofText (text : String) : Bytes :=
  text.toUTF8.data.toList

/-- The text with this UTF-8 form, if the bytes are well formed. -/
def toText? (bytes : Bytes) : Option String :=
  String.fromUTF8? ⟨bytes.toArray⟩

end Bytes

end Countersign

/-
# Signatures as DER sequences

A signature is a pair of positive numbers, written as a DER sequence of two integers. Only the
strict form counts: lengths in a single byte, integers without superfluous zeros and without a
sign, and nothing after them. Two numbers of 32 bytes never need a longer length.
-/

import Countersign.Bytes.BigEndian

namespace Countersign.SignatureSequence

/-- The content of a DER integer: big-endian, with a zero byte in front where the first bit would
otherwise read as a sign. -/
def integerContent (number : Nat) : Bytes :=
  match BigEndian.minimal number with
  | [] => []
  | first :: rest => if first < 0x80 then first :: rest else 0 :: first :: rest

/-- A DER integer. -/
def integer (number : Nat) : Bytes :=
  let content := integerContent number
  0x02 :: UInt8.ofNat content.length :: content

/-- The sequence of two numbers. -/
def encode (r s : Nat) : Bytes :=
  let content := integer r ++ integer s
  0x30 :: UInt8.ofNat content.length :: content

/-- An element with this tag and a one-byte length at the front of a byte string. -/
def element? (tag : UInt8) : Bytes → Option (Bytes × Bytes)
  | first :: length :: rest =>
    if first = tag ∧ length < 0x80 ∧ length.toNat ≤ rest.length then
      some (rest.take length.toNat, rest.drop length.toNat)
    else none
  | _ => none

/-- The number of at most 32 bytes in the content of an integer. -/
def number? : Bytes → Option Nat
  | [] => none
  | [byte] => if byte < 0x80 then some byte.toNat else none
  | first :: second :: rest =>
    if first < 0x80 ∧ ¬(first = 0 ∧ second < 0x80) then
      let digits := if first = 0 then second :: rest else first :: second :: rest
      if digits.length ≤ 32 then some (BigEndian.value digits) else none
    else none

/-- The integer at the front of a byte string, and the bytes after it. -/
def integer? (bytes : Bytes) : Option (Nat × Bytes) := do
  let (content, rest) ← element? 0x02 bytes
  let number ← number? content
  some (number, rest)

/-- The two numbers of a sequence. -/
def decode? (bytes : Bytes) : Option (Nat × Nat) := do
  let (content, after) ← element? 0x30 bytes
  let (r, rest) ← integer? content
  let (s, rest) ← integer? rest
  if after.isEmpty ∧ rest.isEmpty then some (r, s) else none

end Countersign.SignatureSequence

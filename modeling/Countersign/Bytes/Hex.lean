/-
# Hexadecimal byte strings

Two digits per byte, most significant first. Writing uses lower case; reading takes both cases
and works on the UTF-8 bytes of the text, so that a refusal names a byte and its position.
-/

import Countersign.Bytes
import Countersign.Text.Quoted

namespace Countersign

/-- Why a text is not a hexadecimal byte string. -/
inductive HexError where
  /-- The digits do not pair up. -/
  | oddLength
  /-- The byte at this position is no digit. -/
  | invalidDigit (byte : UInt8) (position : Nat)
  deriving DecidableEq, Repr

/-- The text shown for a refusal. The offending byte is shown as the character of that number. -/
def HexError.message : HexError → String
  | .oddLength => "Odd number of digits"
  | .invalidDigit byte position =>
    "Invalid character " ++ Text.quotedChar (Char.ofNat byte.toNat) ++ " at position " ++
      toString position

/-- A refusal as a value. -/
def HexError.label : HexError → String
  | .oddLength => "OddLength"
  | .invalidDigit byte position =>
    "InvalidHexCharacter \x7b c: " ++ Text.quotedChar (Char.ofNat byte.toNat) ++ ", index: " ++
      toString position ++ " \x7d"

namespace Hex

/-- The digit for a number below sixteen. -/
def digit (nibble : Nat) : Char :=
  Char.ofNat (if nibble < 10 then 48 + nibble else 87 + nibble)

/-- The value of a digit given as a byte. -/
def digitValue? (byte : UInt8) : Option UInt8 :=
  if 48 ≤ byte ∧ byte ≤ 57 then some (byte - 48)
  else if 97 ≤ byte ∧ byte ≤ 102 then some (byte - 87)
  else if 65 ≤ byte ∧ byte ≤ 70 then some (byte - 55)
  else none

/-- Two lower-case digits per byte. -/
def encode (bytes : Bytes) : String :=
  String.ofList (bytes.flatMap fun byte => [digit (byte.toNat / 16), digit (byte.toNat % 16)])

/-- Reads digit pairs from `position` on; a lone last digit is refused by `decode` beforehand. -/
def decodePairs : (position : Nat) → Bytes → Except HexError Bytes
  | position, high :: low :: rest =>
    match digitValue? high, digitValue? low with
    | none, _ => .error (.invalidDigit high position)
    | _, none => .error (.invalidDigit low (position + 1))
    | some h, some l => (decodePairs (position + 2) rest).map ((h * 16 + l) :: ·)
  | _, _ => .ok []

/-- Reads a text as hexadecimal: the count of its bytes is checked before the digits. -/
def decode (text : String) : Except HexError Bytes :=
  let digits := Bytes.ofText text
  if digits.length % 2 = 1 then .error .oddLength else decodePairs 0 digits

end Hex

end Countersign

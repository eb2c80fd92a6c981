/-
# Quoted text

A text or a character shown inside a message stands between quotes, with everything that could
be misread escaped: the quote itself, the backslash, the usual controls by letter, and every
other character without a visible form by its code point.
-/

import Countersign.Text.Invisible

namespace Countersign.Text

/-- The lower-case hexadecimal digits of a number, without leading zeros. -/
def hexDigits (number : Nat) : String :=
  String.ofList (Nat.toDigits 16 number)

/-- A number in lower-case hexadecimal after `0x`, padded with zeros to at least `width` digits. -/
def hexNumber (width number : Nat) : String :=
  let digits := hexDigits number
  "0x" ++ String.ofList (List.replicate (width - digits.length) '0') ++ digits

/-- One character as it stands between quotes of the given kind. -/
def escaped (quote c : Char) : String :=
  if c = quote ∨ c = '\\' then "\\" ++ c.toString
  else if c = '\x00' then "\\0"
  else if c = '\t' then "\\t"
  else if c = '\n' then "\\n"
  else if c = '\x0d' then "\\r"
  else if isInvisible c then "\\u\x7b" ++ hexDigits c.toNat ++ "\x7d"
  else c.toString

/-- A character between single quotes. -/
def quotedChar (c : Char) : String :=
  "\x27" ++ escaped '\x27' c ++ "\x27"

/-- A text between double quotes. -/
def quotedText (text : String) : String :=
  "\x22" ++ String.join (text.toList.map (escaped '\x22')) ++ "\x22"

end Countersign.Text

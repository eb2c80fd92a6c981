/-
# Records as JSON

A record of texts is written as a JSON object, one field a line and indented by two blanks. Inside
a text only the quote, the backslash and the controls below the blank are escaped.
-/

import Countersign.Text.Quoted

namespace Countersign.Json

/-- One character inside a JSON text. -/
def escaped (c : Char) : String :=
  if c = '\x22' then "\\\x22"
  else if c = '\\' then "\\\\"
  else if c = '\x08' then "\\b"
  else if c = '\x0c' then "\\f"
  else if c = '\n' then "\\n"
  else if c = '\x0d' then "\\r"
  else if c = '\t' then "\\t"
  else if c.toNat < 32 then
    "\\u00" ++ (if c.toNat < 16 then "0" else "") ++ Text.hexDigits c.toNat
  else c.toString

/-- A JSON text. -/
def quoted (text : String) : String :=
  "\x22" ++ String.join (text.toList.map escaped) ++ "\x22"

/-- One field of a record. -/
def field (name value : String) : String :=
  "  " ++ quoted name ++ ": " ++ quoted value

/-- A record with at least one field. -/
def record (fields : List (String × String)) : String :=
  "\x7b\n" ++ ",\n".intercalate (fields.map fun (name, value) => field name value) ++ "\n\x7d"

end Countersign.Json

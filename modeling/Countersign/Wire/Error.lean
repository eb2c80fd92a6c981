/-
# Refusals of the wire formats

Every encoder and decoder of this library fails with one of these causes. The wording is fixed
in one place, so that a message can change without any format noticing.
-/

import Countersign.Text.Quoted

namespace Countersign

/-- Why a value cannot be written, or a byte string cannot be read. -/
inductive WireError where
  /-- The buffer ends too early. -/
  | invalidLength
  /-- An element of this length does not fit its one-byte length prefix. -/
  | elementTooLong (length : Nat)
  /-- The bytes break a rule of their format. -/
  | invalidEncoding
  /-- A text field is not well-formed UTF-8. -/
  | invalidUtf8
  /-- No curve has this identifier. -/
  | invalidCurve (code : UInt8)
  /-- A required record with this tag is absent. -/
  | missingTag (tag : UInt8)
  /-- A byte codec below the formats of this library failed otherwise than by its length. -/
  | codec
  deriving DecidableEq, Repr

/-- The text shown for a refusal. -/
def WireError.message : WireError → String
  | .invalidLength => "Invalid buffer length"
  | .elementTooLong length =>
    "Element length " ++ toString length ++ " exceeds one byte length prefix"
  | .invalidEncoding => "Invalid encoding"
  | .invalidUtf8 => "Invalid utf8 string"
  | .invalidCurve code => "Unrecognised curve identifier: " ++ Text.hexNumber 2 code.toNat
  | .missingTag tag => "Missing TLV record: " ++ Text.hexNumber 2 tag.toNat
  | .codec => "Encdec error"

/-- A refusal as a value. -/
def WireError.label : WireError → String
  | .invalidLength => "InvalidLength"
  | .elementTooLong length => "ElementTooLong(" ++ toString length ++ ")"
  | .invalidEncoding => "InvalidEncoding"
  | .invalidUtf8 => "InvalidUtf8"
  | .invalidCurve code => "InvalidCurve(" ++ toString code.toNat ++ ")"
  | .missingTag tag => "MissingTag(" ++ toString tag.toNat ++ ")"
  | .codec => "Encdec"

end Countersign

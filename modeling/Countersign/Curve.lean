/-
# Supported curves

Partner and root keys lie on one of two curves. Here a curve is only its name and code; its
arithmetic is in the modules below this one.
-/

namespace Countersign

/-- A curve on which keys may lie. -/
inductive Curve where
  | secp256k1
  | secp256r1
  deriving DecidableEq, Repr

namespace Curve

/-- Every curve, in order. -/
def all : List Curve := [secp256k1, secp256r1]

/-- The identifier of a curve in a credential. -/
def code : Curve → UInt8
  | secp256k1 => 0x00
  | secp256r1 => 0x01

/-- The name under which a curve is given and shown. -/
def name : Curve → String
  | secp256k1 => "secp256k1"
  | secp256r1 => "secp256r1"

/-- The name of a curve as a value. -/
def label : Curve → String
  | secp256k1 => "Secp256k1"
  | secp256r1 => "Secp256r1"

/-- The curve with this identifier. -/
def ofCode? (code : UInt8) : Option Curve :=
  all.find? (·.code == code)

/-- The curve with this name, spelled exactly. -/
def ofName? (text : String) : Option Curve :=
  all.find? (·.name == text)

/-- The length of an uncompressed point: a tag byte and two coordinates. -/
def pointLength : Curve → Nat
  | _ => 65

end Curve

end Countersign

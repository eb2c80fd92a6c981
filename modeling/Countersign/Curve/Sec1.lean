/-
# Points as bytes

A point other than infinity is written in full, as `04` and both coordinates, or compressed, as
`02` or `03` for an even or odd `y` and the first coordinate. Reading also takes the bare form,
`05` and the first coordinate alone. Coordinates are 32 bytes and below the prime, and the point
has to lie on the curve.
-/

import Countersign.Bytes.BigEndian
import Countersign.Curve.Parameters

namespace Countersign.Sec1

/-- The length of a coordinate. -/
def coordinateLength : Nat := 32

/-- Both coordinates after `04`. -/
def uncompressed (x y : Nat) : Bytes :=
  0x04 :: BigEndian.fixed coordinateLength x ++ BigEndian.fixed coordinateLength y

/-- The first coordinate after `02` or `03`. -/
def compressed (x y : Nat) : Bytes :=
  (if y % 2 = 0 then 0x02 else 0x03) :: BigEndian.fixed coordinateLength x

/-- The point with this first coordinate, where `choose` picks one of the two possible `y`. -/
def lift? (curve : Weierstrass) (x : Nat) (choose : Nat → Nat → Nat) : Option (Nat × Nat) :=
  if x < curve.modulus then
    let root := Modular.squareRoot curve.modulus (curve.cubic x)
    let y := choose root ((curve.modulus - root) % curve.modulus)
    if curve.contains x y then some (x, y) else none
  else none

/-- Of two numbers the one with this remainder by two, or the second. -/
def withParity (parity left right : Nat) : Nat :=
  if left % 2 = parity then left else right

/-- How the bare form picks one of the two possible `y`. -/
def chooseBare : Curve.BareForm → Nat → Nat → Nat
  | .evenY => withParity 0
  | .smallerY => min

/-- The coordinates of the point that the bytes stand for. -/
def read? (curve : Curve) (bytes : Bytes) : Option (Nat × Nat) :=
  match bytes with
  | [] => none
  | tag :: digits =>
    let parameters := curve.parameters
    if tag = 0x04 ∧ digits.length = 2 * coordinateLength then
      let x := BigEndian.value (digits.take coordinateLength)
      let y := BigEndian.value (digits.drop coordinateLength)
      if parameters.contains x y then some (x, y) else none
    else if digits.length = coordinateLength then
      let x := BigEndian.value digits
      if tag = 0x02 then lift? parameters x (withParity 0)
      else if tag = 0x03 then lift? parameters x (withParity 1)
      else if tag = 0x05 then lift? parameters x (chooseBare curve.bareForm)
      else none
    else none

end Countersign.Sec1

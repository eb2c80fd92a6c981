/-
# The parameters of the supported curves
-/

import Countersign.Curve
import Countersign.Curve.Weierstrass

namespace Countersign.Curve

/-- The equation, the chosen point and its order for each supported curve. -/
def parameters : Curve → Weierstrass
  | secp256k1 =>
    { modulus := 0xfffffffffffffffffffffffffffffffffffffffffffffffffffffffefffffc2f
      a := 0
      b := 7
      baseX := 0x79be667ef9dcbbac55a06295ce870b07029bfcdb2dce28d959f2815b16f81798
      baseY := 0x483ada7726a3c4655da4fbfc0e1108a8fd17b448a68554199c47d08ffb10d4b8
      order := 0xfffffffffffffffffffffffffffffffebaaedce6af48a03bbfd25e8cd0364141 }
  | secp256r1 =>
    { modulus := 0xffffffff00000001000000000000000000000000ffffffffffffffffffffffff
      a := 0xffffffff00000001000000000000000000000000fffffffffffffffffffffffc
      b := 0x5ac635d8aa3a93e7b3ebbd55769886bc651d06b0cc53b0f63bce3c3e27d2604b
      baseX := 0x6b17d1f2e12c4247f8bce6e563a440f277037d812deb33a0f4a13945d898c296
      baseY := 0x4fe342e2fe1a7f9b8ee7eb4a7c0f9e162bce33576b315ececbb6406837bf51f5
      order := 0xffffffff00000000ffffffffffffffffbce6faada7179e84f3b9cac2fc632551 }

/-- A signature whose second number is above half the order has a twin below it; on the first
curve only the lower one counts. -/
def requiresLowS : Curve → Bool
  | secp256k1 => true
  | secp256r1 => false

/-- What the bare form of a point, which has no bit for the sign of `y`, stands for. -/
inductive BareForm where
  /-- The point with the even `y`. -/
  | evenY
  /-- The point with the smaller `y`. -/
  | smallerY
  deriving DecidableEq, Repr

/-- How each curve reads the bare form. -/
def bareForm : Curve → BareForm
  | secp256k1 => .evenY
  | secp256r1 => .smallerY

end Countersign.Curve

/-
# Points on a short Weierstrass curve

The curve of the solutions of `y² = x³ + a x + b` modulo a prime, with a point at infinity. Sums
are computed in projective form, where a point is `(x / z², y / z³)` and infinity has `z = 0`, so
that a multiple of a point takes a single division at its end.
-/

import Countersign.Curve.Modular

namespace Countersign

/-- A curve with a chosen point of prime order on it. -/
structure Weierstrass where
  /-- The prime of the coordinates. -/
  modulus : Nat
  a : Nat
  b : Nat
  /-- The coordinates of the chosen point. -/
  baseX : Nat
  baseY : Nat
  /-- The order of the chosen point. -/
  order : Nat
  deriving DecidableEq, Repr

namespace Weierstrass

/-- A point of a curve. -/
inductive Point where
  | infinity
  | affine (x y : Nat)
  deriving DecidableEq, Repr

/-- A point in projective form. -/
structure Projective where
  x : Nat
  y : Nat
  z : Nat
  deriving DecidableEq, Repr

variable (curve : Weierstrass)

/-- The right-hand side of the equation of the curve. -/
def cubic (x : Nat) : Nat :=
  (x * x % curve.modulus * x + curve.a * x + curve.b) % curve.modulus

/-- Whether two coordinates are those of a point of the curve. -/
def contains (x y : Nat) : Bool :=
  x < curve.modulus && y < curve.modulus && y * y % curve.modulus == curve.cubic x

/-- The chosen point. -/
def base : Point :=
  .affine curve.baseX curve.baseY

/-- The projective form of infinity. -/
def Projective.infinity : Projective := ⟨1, 1, 0⟩

/-- A point added to itself. -/
def double (point : Projective) : Projective :=
  let p := curve.modulus
  if point.z = 0 ∨ point.y = 0 then .infinity
  else
    let ySquare := point.y * point.y % p
    let s := 4 * point.x * ySquare % p
    let zSquare := point.z * point.z % p
    let m := (3 * (point.x * point.x) + curve.a * (zSquare * zSquare % p)) % p
    let x := Modular.sub p (m * m % p) (2 * s % p)
    ⟨x, Modular.sub p (m * Modular.sub p s x % p) (8 * (ySquare * ySquare) % p),
      2 * point.y * point.z % p⟩

/-- A point in projective form plus one with coordinates. -/
def addAffine (point : Projective) (x y : Nat) : Projective :=
  let p := curve.modulus
  if point.z = 0 then ⟨x, y, 1⟩
  else
    let zSquare := point.z * point.z % p
    let h := Modular.sub p (x * zSquare % p) point.x
    let r := Modular.sub p (y * (zSquare * point.z % p) % p) point.y
    if h = 0 then
      if r = 0 then curve.double point else .infinity
    else
      let hSquare := h * h % p
      let hCube := hSquare * h % p
      let v := point.x * hSquare % p
      let x := Modular.sub p (r * r % p) ((hCube + 2 * v) % p)
      ⟨x, Modular.sub p (r * Modular.sub p v x % p) (point.y * hCube % p), point.z * h % p⟩

/-- A point in projective form plus any point. -/
def add (point : Projective) : Point → Projective
  | .infinity => point
  | .affine x y => curve.addAffine point x y

/-- The point that a projective form stands for. -/
def toPoint (point : Projective) : Point :=
  let p := curve.modulus
  if point.z = 0 then .infinity
  else
    let inverse := Modular.inverse p point.z
    let inverseSquare := inverse * inverse % p
    .affine (point.x * inverseSquare % p) (point.y * (inverseSquare * inverse % p) % p)

/-- A multiple of a point, in projective form. -/
def multiple (scalar : Nat) (point : Point) : Projective :=
  (Modular.bits scalar).foldl
    (fun sum bit => if bit then curve.add (curve.double sum) point else curve.double sum)
    .infinity

end Weierstrass

end Countersign

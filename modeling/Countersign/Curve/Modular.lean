/-
# Arithmetic modulo a prime

Residues are natural numbers below the modulus. A power takes one squaring per bit of the
exponent; inverses and square roots are powers, by the theorem that the power with exponent one
less than the prime is one.
-/

namespace Countersign.Modular

/-- The binary digits of a number, most significant first. -/
def bits (number : Nat) : List Bool :=
  (List.range (number.log2 + 1)).reverse.map number.testBit

/-- The difference of two residues. -/
def sub (modulus left right : Nat) : Nat :=
  (left + modulus - right) % modulus

/-- A power of a residue. -/
def pow (modulus base exponent : Nat) : Nat :=
  (bits exponent).foldl
    (fun power bit =>
      let square := power * power % modulus
      if bit then square * base % modulus else square)
    (1 % modulus)

/-- The inverse of a residue other than zero. -/
def inverse (modulus residue : Nat) : Nat :=
  pow modulus residue (modulus - 2)

/-- A square root of a residue that has one, for primes one below a multiple of four. -/
def squareRoot (modulus residue : Nat) : Nat :=
  pow modulus residue ((modulus + 1) / 4)

end Countersign.Modular

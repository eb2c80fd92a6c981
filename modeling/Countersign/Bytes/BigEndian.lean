/-
# Big-endian numbers

Numbers travel most significant byte first, either in a fixed number of bytes or in as few
as hold them; reading is the same for both. A fixed-width form has its width, reading it back
loses only the digits that did not fit, and writing at the length that was read undoes reading.
-/

import Countersign.Bytes

namespace Countersign.BigEndian

/-- The number whose base-256 digits are these bytes, most significant first. -/
def value (bytes : Bytes) : Nat :=
  bytes.foldl (fun high byte => high * 256 + byte.toNat) 0

/-- The last `width` base-256 digits of a number, most significant first. -/
def fixed : (width : Nat) → (number : Nat) → Bytes
  | 0, _ => []
  | width + 1, number => fixed width (number / 256) ++ [UInt8.ofNat number]

/-- How many numbers have a form of this width: those below it are read back unchanged. -/
def capacity : (width : Nat) → Nat
  | 0 => 1
  | width + 1 => 256 * capacity width

/-- How many bytes the shortest form of a number takes; zero still takes one. -/
def minimalWidth (number : Nat) : Nat :=
  number.log2 / 8 + 1

/-- The shortest form of a number: no leading zero byte, except that zero is one zero byte. -/
def minimal (number : Nat) : Bytes :=
  fixed (minimalWidth number) number

@[simp]
theorem length_fixed (width number : Nat) : (fixed width number).length = width := by
  induction width generalizing number with
  | zero => rfl
  | succ width ih => simp [fixed, ih]

@[simp]
theorem length_minimal (number : Nat) : (minimal number).length = minimalWidth number :=
  length_fixed _ _

@[simp]
theorem value_nil : value [] = 0 := rfl

theorem value_concat (bytes : Bytes) (byte : UInt8) :
    value (bytes ++ [byte]) = value bytes * 256 + byte.toNat := by
  simp [value]

/-- Reading a fixed-width form gives the number back up to the digits that did not fit. -/
theorem value_fixed (width number : Nat) :
    value (fixed width number) = number % capacity width := by
  induction width generalizing number with
  | zero => simp [fixed, capacity, Nat.mod_one]
  | succ width ih =>
    have hbyte : (UInt8.ofNat number).toNat = number % 256 := UInt8.toNat_ofNat'
    rw [fixed, value_concat, ih, hbyte, capacity, Nat.mod_mul, Nat.mul_comm, Nat.add_comm]

/-- A byte string is the fixed-width form of its own value at its own length. -/
theorem fixed_value (bytes : Bytes) : fixed bytes.length (value bytes) = bytes := by
  induction hlength : bytes.length generalizing bytes with
  | zero => simp [List.length_eq_zero_iff.1 hlength, fixed]
  | succ length ih =>
    rcases List.eq_nil_or_concat bytes with rfl | ⟨front, last, rfl⟩
    · simp at hlength
    · have hfront : front.length = length := by simpa using hlength
      have hlast := last.toNat_lt
      rw [List.concat_eq_append, value_concat, fixed,
        show (value front * 256 + last.toNat) / 256 = value front by omega, ih front hfront]
      congr 2
      apply UInt8.toNat_inj.1
      rw [UInt8.toNat_ofNat']
      omega

end Countersign.BigEndian

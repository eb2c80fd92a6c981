/-
# The digits of a number

The bytes of a number are its base-256 digits. A number has one form of each width that can hold
it, and one shortest form; the latter is the one that does not start with a zero byte.
-/

import Countersign.Bytes.BigEndian
import Mathlib.Algebra.Group.Nat.Defs

namespace Countersign.BigEndian

theorem capacity_eq_pow (width : Nat) : capacity width = 2 ^ (8 * width) := by
  induction width with
  | zero => rfl
  | succ width ih => rw [capacity, ih, Nat.mul_add, Nat.pow_add, Nat.mul_comm]

/-- A byte string of some width has one of the values that this width can hold. -/
theorem value_lt_capacity (bytes : Bytes) : value bytes < capacity bytes.length := by
  have hpos : 0 < capacity bytes.length := by
    rw [capacity_eq_pow]
    exact Nat.two_pow_pos _
  have hvalue := value_fixed bytes.length (value bytes)
  rw [fixed_value] at hvalue
  rw [hvalue]
  exact Nat.mod_lt _ hpos

theorem value_lt_of_length_le {bytes : Bytes} {width : Nat} (hlength : bytes.length ≤ width) :
    value bytes < 2 ^ (8 * width) := by
  have hvalue := value_lt_capacity bytes
  rw [capacity_eq_pow] at hvalue
  exact Nat.lt_of_lt_of_le hvalue (Nat.pow_le_pow_right (by decide) (by omega))

/-- At most eight bytes have a value that a 64-bit number can be. -/
theorem toNat_ofNat_value {bytes : Bytes} (hlength : bytes.length ≤ 8) :
    (UInt64.ofNat (value bytes)).toNat = value bytes := by
  rw [UInt64.toNat_ofNat', Nat.mod_eq_of_lt (value_lt_of_length_le hlength)]

/-- The last digits of a wide form are those of a narrower one. -/
theorem drop_fixed (front width number : Nat) :
    (fixed (front + width) number).drop front = fixed width number := by
  induction width generalizing number with
  | zero => exact List.drop_of_length_le (Nat.le_of_eq (length_fixed front number))
  | succ width ih =>
    have hfront : front ≤ (fixed (front + width) (number / 256)).length := by
      rw [length_fixed]
      exact Nat.le_add_right _ _
    rw [Nat.add_succ, fixed, List.drop_append_of_le_length hfront, ih, fixed]

theorem value_fixed_of_lt {width number : Nat} (hnumber : number < capacity width) :
    value (fixed width number) = number := by
  rw [value_fixed, Nat.mod_eq_of_lt hnumber]

theorem value_append (front back : Bytes) :
    value (front ++ back) = value front * capacity back.length + value back := by
  induction hlength : back.length generalizing back with
  | zero =>
    obtain rfl := List.length_eq_zero_iff.1 hlength
    rw [List.append_nil, capacity, value_nil, Nat.mul_one, Nat.add_zero]
  | succ length ih =>
    rcases List.eq_nil_or_concat back with rfl | ⟨body, last, rfl⟩
    · cases hlength
    · rw [List.concat_eq_append] at hlength ⊢
      have hbody : body.length = length := by
        rw [List.length_append, List.length_singleton] at hlength
        omega
      rw [← List.append_assoc, value_concat, value_concat, ih body hbody, capacity,
        Nat.add_mul, Nat.mul_assoc, Nat.mul_comm (capacity length), Nat.add_assoc]

theorem value_cons (first : UInt8) (rest : Bytes) :
    value (first :: rest) = first.toNat * capacity rest.length + value rest := by
  have happend := value_append [first] rest
  rwa [show value [first] = first.toNat from Nat.zero_add _] at happend

theorem lt_capacity_minimalWidth (number : Nat) : number < capacity (minimalWidth number) := by
  have hlog := Nat.lt_log2_self (n := number)
  rw [capacity_eq_pow, minimalWidth]
  refine Nat.lt_of_lt_of_le hlog (Nat.pow_le_pow_right (by decide) ?_)
  omega

/-- As many bytes hold a number as its shortest form has, and no fewer. -/
theorem lt_pow_iff_minimalWidth_le {number width : Nat} (hwidth : 0 < width) :
    number < 256 ^ width ↔ minimalWidth number ≤ width := by
  have hpow : 256 ^ width = 2 ^ (8 * width) := (Nat.pow_mul 2 8 width).symm
  rw [hpow, minimalWidth]
  by_cases hzero : number = 0
  · subst hzero
    have hlog : Nat.log2 0 = 0 := by decide
    rw [hlog]
    exact iff_of_true (Nat.two_pow_pos _) hwidth
  · rw [← Nat.log2_lt hzero]
    omega

@[simp]
theorem value_minimal (number : Nat) : value (minimal number) = number := by
  exact value_fixed_of_lt (lt_capacity_minimalWidth number)

/-- The shortest form of a number other than zero does not start with a zero byte. -/
theorem head?_minimal_ne {number : Nat} (hpos : number ≠ 0) :
    (minimal number).head? ≠ some 0 := by
  intro hhead
  obtain ⟨rest, hrest⟩ := List.head?_eq_some_iff.1 hhead
  have hwidth := length_minimal number
  have hvalue := value_minimal number
  rw [hrest] at hwidth hvalue
  rw [value_cons, show (0 : UInt8).toNat = 0 from rfl, Nat.zero_mul, Nat.zero_add] at hvalue
  have hlength : rest.length = number.log2 / 8 := by
    rw [List.length_cons, minimalWidth] at hwidth
    omega
  have hsmall := value_lt_capacity rest
  rw [hvalue, capacity_eq_pow, hlength] at hsmall
  have hlog := Nat.log2_self_le hpos
  have hpow : 2 ^ (8 * (number.log2 / 8)) ≤ 2 ^ number.log2 :=
    Nat.pow_le_pow_right (by decide) (by omega)
  omega

/-- Bytes that do not start with a zero byte are the shortest form of their value. -/
theorem minimal_value {bytes : Bytes} (hsome : bytes ≠ []) (hhead : bytes.head? ≠ some 0) :
    minimal (value bytes) = bytes := by
  cases bytes with
  | nil => exact absurd rfl hsome
  | cons first rest =>
    have hfirst : 0 < first.toNat := by
      refine Nat.pos_of_ne_zero fun hzero => hhead ?_
      rw [List.head?_cons, show first = 0 from UInt8.toNat_inj.1 hzero]
    have hlow : 2 ^ (8 * rest.length) ≤ value (first :: rest) := by
      rw [value_cons, capacity_eq_pow]
      exact Nat.le_trans (Nat.le_mul_of_pos_left _ hfirst) (Nat.le_add_right _ _)
    have hhigh := value_lt_capacity (first :: rest)
    rw [capacity_eq_pow, List.length_cons] at hhigh
    have hpos : value (first :: rest) ≠ 0 := by
      have hpow := Nat.two_pow_pos (8 * rest.length)
      omega
    have hlog := (Nat.le_log2 hpos).2 hlow
    have hlog' := (Nat.log2_lt hpos).2 hhigh
    have hwidth : minimalWidth (value (first :: rest)) = (first :: rest).length := by
      rw [minimalWidth, List.length_cons]
      omega
    rw [minimal, hwidth, fixed_value]

end Countersign.BigEndian

/-
# The code of minimal numbers

Minimal DER numbers are a code in which no word begins another one, so a number can be read from the
front of any byte string and nothing has to mark its end. A reader finds a number exactly where the
form of a number stands. Whatever else stands there is refused: a form with a zero digit too many,
one that is longer than it need be, one without a length and one of more than eight digits.

How a number is found in a record, and that records are a code as well, is said elsewhere.
-/

import Countersign.Proofs.Tlv.Canonical

namespace Countersign.Der

open BigEndian

/-- A number is read exactly where its form stands. -/
theorem read_eq_ok_iff {bytes rest : Bytes} {number : UInt64} :
    read bytes = .ok (number, rest) ↔ bytes = encode number ++ rest := by
  constructor
  · exact encode_append_of_read
  · rintro rfl
    exact read_encode_append number rest

/-- The number at the front of a byte string is the one whose form stands there, and it takes as
many bytes as the form has. -/
theorem decode_eq_ok_iff {bytes : Bytes} {number : UInt64} {count : Nat} :
    decode bytes = .ok (number, count) ↔
      encode number <+: bytes ∧ count = (encode number).length := by
  constructor
  · intro hdecode
    unfold decode at hdecode
    split at hdecode
    · next found rest hread =>
      cases hdecode
      obtain rfl := read_eq_ok_iff.1 hread
      rw [List.length_append, Nat.add_sub_cancel]
      exact ⟨List.prefix_append _ _, rfl⟩
    · cases hdecode
  · rintro ⟨⟨rest, rfl⟩, rfl⟩
    simp only [decode, read_encode_append, List.length_append, Nat.add_sub_cancel]

/-- A form that breaks off is refused as too short. -/
theorem decode_take_encode (number : UInt64) {cut : Nat} (hcut : cut < (encode number).length) :
    decode ((encode number).take cut) = .error .invalidLength := by
  rw [decode, read_take_encode number hcut]

/-- Eight digits without a leading zero are a large number. -/
theorem le_value_of_eight_digits {digits : Bytes} (hlength : digits.length = 8)
    (hhead : digits.head? ≠ some 0) : 256 ^ 7 ≤ value digits := by
  have hsome : digits ≠ [] := by
    apply List.ne_nil_of_length_pos
    omega
  have hwidth : minimalWidth (value digits) = 8 := by
    rw [← length_minimal, minimal_value hsome hhead, hlength]
  apply Nat.not_lt.1
  intro hsmall
  have hfew := (lt_pow_iff_minimalWidth_le (by decide)).1 hsmall
  omega

/-- Eight digits without a leading zero are read as they are: none of their bits is lost. -/
theorem decode_of_eight_digits {digits : Bytes} (hlength : digits.length = 8)
    (hhead : digits.head? ≠ some 0) (rest : Bytes) :
    ∃ number, decode (0x88 :: (digits ++ rest)) = .ok (number, 9) ∧
      number.toNat = value digits := by
  have hlarge := le_value_of_eight_digits hlength hhead
  have hminimal : ¬(digits.head? = some 0 ∨ value digits < 0x80) := by
    rintro (hzero | hsmall)
    · exact hhead hzero
    · omega
  have hform : encode (UInt64.ofNat (value digits)) = 0x88 :: digits := by
    rw [encode_of_digits (Nat.le_of_eq hlength) hminimal, hlength]
    rfl
  refine ⟨UInt64.ofNat (value digits), ?_, toNat_ofNat_value (Nat.le_of_eq hlength)⟩
  rw [decode_eq_ok_iff, hform, List.length_cons, hlength]
  exact ⟨⟨rest, rfl⟩, rfl⟩

/-- The form of a number from 128 on takes one byte and then the fewest bytes that hold the
number. -/
theorem exists_width_of_long {number : UInt64} (hlong : 0x80 ≤ number) :
    ∃ width, encodedLength number = 1 + width ∧ number.toNat < 256 ^ width ∧
      ∀ fewer < width, 256 ^ fewer ≤ number.toNat := by
  have hshort : ¬number < 0x80 := UInt64.not_lt.2 hlong
  have hpositive : 0 < minimalWidth number.toNat := Nat.succ_pos _
  refine ⟨minimalWidth number.toNat, ?_, ?_, ?_⟩
  · rw [encodedLength, if_neg hshort]
  · exact (lt_pow_iff_minimalWidth_le hpositive).2 (Nat.le_refl _)
  · intro fewer hfewer
    by_cases hnone : fewer = 0
    · have hle : 128 ≤ number.toNat := UInt64.le_iff_toNat_le.1 hlong
      rw [hnone, Nat.pow_zero]
      omega
    · have hmore := mt (lt_pow_iff_minimalWidth_le (Nat.pos_of_ne_zero hnone)).1
        (Nat.not_le.2 hfewer)
      exact Nat.not_lt.1 hmore

/-- Numbers and their forms correspond exactly. A number is found where its form stands, whatever
follows, and nowhere else, so that what was read is the only form of the number; eight digits keep
all their bits; a form that breaks off anywhere is too short; and no form is longer than the number
needs. -/
theorem numbers_read_exactly :
    (∀ (bytes : Bytes) (number : UInt64) (count : Nat),
      decode bytes = .ok (number, count) ↔
        encode number <+: bytes ∧ count = (encode number).length ∧
          count = encodedLength number) ∧
    (∀ (number : UInt64) (rest : Bytes),
      decode (encode number ++ rest) = .ok (number, encodedLength number)) ∧
    (∀ (bytes : Bytes) (number : UInt64) (count : Nat),
      decode bytes = .ok (number, count) → bytes.take count = encode number) ∧
    (∀ digits : Bytes, digits.length = 8 → digits.head? ≠ some 0 → ∀ rest : Bytes,
      ∃ number, decode (0x88 :: (digits ++ rest)) = .ok (number, 9) ∧
        number.toNat = value digits) ∧
    (∀ (number : UInt64), ∀ cut < (encode number).length,
      decode ((encode number).take cut) = .error .invalidLength) ∧
    ∀ number : UInt64,
      (number < 0x80 → encodedLength number = 1) ∧
      (0x80 ≤ number → ∃ width, encodedLength number = 1 + width ∧
        number.toNat < 256 ^ width ∧ ∀ fewer < width, 256 ^ fewer ≤ number.toNat) := by
  refine ⟨?_, ?_, ?_, ?_, ?_, ?_⟩
  · intro bytes number count
    rw [decode_eq_ok_iff, ← length_encode, and_self]
  · intro number rest
    rw [decode_eq_ok_iff, length_encode]
    exact ⟨List.prefix_append _ _, rfl⟩
  · intro bytes number count hdecode
    obtain ⟨⟨rest, rfl⟩, rfl⟩ := decode_eq_ok_iff.1 hdecode
    exact List.take_left
  · intro digits hlength hhead rest
    exact decode_of_eight_digits hlength hhead rest
  · intro number cut hcut
    exact decode_take_encode number hcut
  · intro number
    exact ⟨fun hshort => if_pos hshort, exists_width_of_long⟩

/-- At the border between the short and the long form, and at the greatest number. -/
theorem numbers_read_exactly_border :
    ([0x81, 0x80, 0x07] : Bytes).take 2 = encode 0x80 ∧
      decode ((encode 0x80).take 1) = .error .invalidLength ∧
      (∃ number, decode (0x88 :: List.replicate 8 0xff) = .ok (number, 9) ∧
        number.toNat = 256 ^ 8 - 1) ∧
      encodedLength 0x7f = 1 ∧ ∃ width, encodedLength 0x80 = 1 + width ∧ 128 < 256 ^ width := by
  obtain ⟨-, -, hunique, hlarge, hcut, hlength⟩ := numbers_read_exactly
  obtain ⟨number, hnumber, hvalue⟩ := hlarge (List.replicate 8 0xff) rfl (by decide) []
  obtain ⟨width, hwidth, hbound, -⟩ := (hlength 0x80).2 (by decide)
  exact ⟨hunique [0x81, 0x80, 0x07] 0x80 2 rfl, hcut 0x80 1 (by decide),
    ⟨number, hnumber, hvalue.trans (by decide +kernel)⟩, (hlength 0x7f).1 (by decide), width,
    hwidth, hbound⟩

end Countersign.Der

/-
# Numbers as values of records

A record carries bytes, so a number has to become bytes and to be found in bytes. It is written in
as few bytes as hold it. It is read from up to eight bytes, and may have zeros in front there. So a
number survives being written and read, while bytes survive being read and written up to the zeros
in front of them.
-/

import Countersign.Proofs.Tlv.Canonical
import Mathlib.Order.Bounds.Defs

namespace Countersign

namespace BigEndian

/-- The shortest form of a number has as many bytes as it takes to hold the number, and at least
one. -/
theorem isLeast_minimalWidth (number : Nat) :
    IsLeast {width | 1 ≤ width ∧ number < 256 ^ width} (minimalWidth number) := by
  have hpos : 1 ≤ minimalWidth number := Nat.succ_pos _
  refine ⟨⟨hpos, (lt_pow_iff_minimalWidth_le hpos).2 (Nat.le_refl _)⟩, ?_⟩
  rintro width ⟨hwidth, hholds⟩
  exact (lt_pow_iff_minimalWidth_le hwidth).1 hholds

/-- Bytes without the zeros in front of them. If all are zero, one of them stays. -/
def trim (bytes : Bytes) : Bytes :=
  match bytes.dropWhile (· == 0) with
  | [] => [0]
  | first :: rest => first :: rest

/-- Zeros in front do not count. -/
theorem value_dropWhile (bytes : Bytes) : value (bytes.dropWhile (· == 0)) = value bytes := by
  induction bytes with
  | nil => rfl
  | cons first rest ih =>
    rw [List.dropWhile_cons]
    split
    · next hzero =>
      rw [ih, value_cons, beq_iff_eq.1 hzero, show (0 : UInt8).toNat = 0 from rfl, Nat.zero_mul,
        Nat.zero_add]
    · rfl

/-- The shortest form of the value of some bytes is what is left of them without the zeros in
front. -/
theorem minimal_value_eq_trim (bytes : Bytes) : minimal (value bytes) = trim bytes := by
  have hnonzero := List.head?_dropWhile_not (· == (0 : UInt8)) bytes
  rw [← value_dropWhile, trim]
  generalize bytes.dropWhile (· == 0) = rest at hnonzero
  cases rest with
  | nil => rfl
  | cons first rest =>
    refine minimal_value (List.cons_ne_nil first rest) ?_
    rintro hhead
    cases hhead
    cases hnonzero

end BigEndian

namespace TlvValue

/-- The announced length of a value is the number of its bytes. -/
theorem length_toBytes (value : TlvValue) : value.toBytes.length = value.length := by
  cases value with
  | int number => exact BigEndian.length_minimal _
  | text content => rfl
  | bytes content => rfl

/-- A value is written exactly where there is room for its bytes, and then stands in front of what
was there behind them. -/
theorem writeInto_eq (value : TlvValue) (target : Bytes) :
    value.writeInto target =
      if target.length < value.length then .error .invalidLength
      else .ok (value.length, value.toBytes ++ target.drop value.length) := by
  have hlength := value.length_toBytes
  by_cases hroom : target.length < value.length
  · simp only [writeInto, write, Buffer.untouched, hroom, if_true]
  · simp only [writeInto, write, Buffer.untouched, Buffer.put, hlength, hroom, if_false,
      Buffer.content, List.nil_append]

end TlvValue

namespace Tlv

theorem asInt_eq_ok_iff (record : Tlv) (number : UInt64) :
    record.asInt = .ok number ↔
      (1 ≤ record.value.length ∧ record.value.length ≤ 8) ∧
        UInt64.ofNat (BigEndian.value record.value) = number := by
  have hempty : record.value.isEmpty = true ↔ ¬1 ≤ record.value.length := by
    rw [List.isEmpty_iff, ← List.length_eq_zero_iff]
    omega
  unfold asInt
  split
  · next hbad =>
    rw [hempty] at hbad
    constructor
    · intro hread
      cases hread
    · rintro ⟨⟨hsome, hshort⟩, -⟩
      omega
  · next hgood =>
    rw [hempty] at hgood
    rw [Except.ok.injEq]
    exact ⟨fun hread => ⟨by omega, hread⟩, fun hread => hread.2⟩

/-- Nothing else than its length can keep a value from being read as a number. -/
theorem asInt_eq_error {record : Tlv}
    (hlength : ¬(1 ≤ record.value.length ∧ record.value.length ≤ 8)) :
    record.asInt = .error .invalidEncoding := by
  rw [asInt, if_pos]
  rw [List.isEmpty_iff, ← List.length_eq_zero_iff]
  omega

end Tlv

namespace TlvValue

open BigEndian

/-- Numbers of 64 bits and their values in records. A number is written in the fewest bytes that
hold it, which is what its length says, wherever there is room for them, and what was there behind
them stays; and it is read back from these bytes. Any one to eight bytes, and no others, are read as
a number. None of their bits is lost, and of the bytes themselves none but the zeros in front. -/
theorem int_shortest_and_read_back :
    (∀ number tag : UInt64,
      IsLeast {width | 1 ≤ width ∧ number.toNat < 256 ^ width} (int number).toBytes.length ∧
      (int number).length = (int number).toBytes.length ∧
      (∀ target : Bytes, (int number).writeInto target =
        if target.length < (int number).length then .error .invalidLength
        else .ok ((int number).length, (int number).toBytes ++ target.drop (int number).length)) ∧
      (⟨tag, (int number).toBytes⟩ : Tlv).asInt = .ok number) ∧
    ∀ (tag : UInt64) (bytes : Bytes),
      (⟨tag, bytes⟩ : Tlv).asInt.map (fun number => (number.toNat, (int number).toBytes)) =
        if 1 ≤ bytes.length ∧ bytes.length ≤ 8 then .ok (value bytes, trim bytes)
        else .error .invalidEncoding := by
  constructor
  · intro number tag
    have hwidth : (int number).toBytes.length = minimalWidth number.toNat := length_minimal _
    refine ⟨?_, ((int number).length_toBytes).symm, (int number).writeInto_eq, ?_⟩
    · rw [hwidth]
      exact isLeast_minimalWidth number.toNat
    · have hpos : 1 ≤ (int number).toBytes.length := by
        rw [hwidth]
        exact Nat.succ_pos _
      have hfew : (int number).toBytes.length ≤ 8 := by
        rw [hwidth]
        exact Der.minimalWidth_le number
      refine (Tlv.asInt_eq_ok_iff _ number).2 ⟨⟨hpos, hfew⟩, ?_⟩
      rw [toBytes, value_minimal, UInt64.ofNat_toNat]
  · intro tag bytes
    split
    · next hlength =>
      rw [(Tlv.asInt_eq_ok_iff ⟨tag, bytes⟩ _).2 ⟨hlength, rfl⟩, Except.map, toBytes,
        toNat_ofNat_value hlength.2, minimal_value_eq_trim]
    · next hlength =>
      rw [Tlv.asInt_eq_error hlength]
      rfl

example : (⟨0x23, [0, 0, 1, 0]⟩ : Tlv).asInt.toOption = some 256 ∧
    (int 256).toBytes = [1, 0] ∧ trim [0, 0, 1, 0] = [1, 0] ∧ trim [0, 0] = [0] := by
  decide

end TlvValue

end Countersign

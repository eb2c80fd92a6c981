/-
# The fields of a descriptor

A record before the signature belongs to one of the known fields, by its tag as a 64-bit number,
and the field admits its value. Whatever reads a record says by its result whether this is so.
-/

import Countersign.Proofs.Tlv.Value
import Countersign.TrustedName.Info

namespace Countersign

namespace FieldTag

/-- The tag that the records of a field have. -/
def tag (field : FieldTag) : UInt64 :=
  field.code.toUInt64

/-- The values that a field may have before the signature. A number may have leading zeros. Some
fields may not stand there at all. -/
def Admits : FieldTag → Bytes → Prop
  | structureType, value | version, value | trustedNameType, value | trustedNameSource, value
  | signerKeyId, value | signerAlgo, value =>
    1 ≤ value.length ∧ value.length ≤ 8 ∧ BigEndian.value value ≤ 255
  | chainId, value => 1 ≤ value.length ∧ value.length ≤ 8
  | challenge, value => 1 ≤ value.length ∧ value.length ≤ 4
  | trustedName, _ | address, _ | trustedNameSourceContract, _ => True
  | derSignature, _ | notValidAfter, _ | trustedNameNftId, _ => False

/-- Different fields have different tags. -/
theorem tag_eq_iff (first second : FieldTag) : first.tag = second.tag ↔ first = second := by
  constructor
  · cases first <;> cases second <;> decide
  · rintro rfl
    rfl

/-- The value of the last record of a field. -/
def lastValue (field : FieldTag) (records : List Tlv) : Option Bytes :=
  (records.reverse.find? fun record => record.tag = field.tag).map Tlv.value

/-- The number in the last record of a field. -/
def lastNumber (field : FieldTag) (records : List Tlv) : Option Nat :=
  (field.lastValue records).map BigEndian.value

theorem lastValue_concat (field : FieldTag) (records : List Tlv) (record : Tlv) :
    field.lastValue (records ++ [record]) =
      if record.tag = field.tag then some record.value else field.lastValue records := by
  rw [lastValue, List.reverse_concat, List.find?_cons]
  by_cases htag : record.tag = field.tag
  · simp only [htag, decide_true, if_true, Option.map_some]
  · simp only [htag, decide_false, if_false, lastValue]

end FieldTag

namespace Tlv

open FieldTag

/-- A record that may stand before the signature. -/
def Admitted (record : Tlv) : Prop :=
  ∃ field : FieldTag, record.tag = field.tag ∧ field.Admits record.value

/-- No tag but its own stands for a field, not even a larger one that ends in the same byte. -/
theorem field?_eq_some_iff (record : Tlv) (field : FieldTag) :
    record.field? = some field ↔ record.tag = field.tag := by
  constructor
  · intro hfield
    unfold field? at hfield
    split at hfield
    · next hsmall =>
      unfold ofCode? at hfield
      have hfound := List.find?_some hfield
      have hcode : field.code = record.tag.toUInt8 := beq_iff_eq.1 hfound
      have hlt : record.tag.toNat < 256 := UInt64.lt_iff_toNat_lt.1 hsmall
      rw [← UInt64.toNat_inj, FieldTag.tag, UInt8.toNat_toUInt64, hcode, UInt64.toNat_toUInt8]
      omega
    · cases hfield
  · intro htag
    rw [field?, htag]
    cases field <;> decide

theorem asByte_eq_ok_iff (record : Tlv) (byte : UInt8) :
    record.asByte = .ok byte ↔
      (1 ≤ record.value.length ∧ record.value.length ≤ 8 ∧ BigEndian.value record.value ≤ 255) ∧
        UInt8.ofNat (BigEndian.value record.value) = byte := by
  cases hint : record.asInt with
  | error cause =>
    rw [asByte, hint]
    constructor
    · intro hread
      cases hread
    · rintro ⟨⟨hsome, hshort, -⟩, -⟩
      rw [((record.asInt_eq_ok_iff _).2 ⟨⟨hsome, hshort⟩, rfl⟩)] at hint
      cases hint
  | ok number =>
    obtain ⟨⟨hsome, hshort⟩, rfl⟩ := (record.asInt_eq_ok_iff number).1 hint
    have hnumber := BigEndian.toNat_ofNat_value hshort
    have hsmall : UInt64.ofNat (BigEndian.value record.value) < 0x100 ↔
        BigEndian.value record.value ≤ 255 := by
      rw [UInt64.lt_iff_toNat_lt, hnumber]
      exact Nat.lt_succ_iff
    have hbyte : (UInt64.ofNat (BigEndian.value record.value)).toUInt8 =
        UInt8.ofNat (BigEndian.value record.value) := by
      rw [← UInt8.toNat_inj, UInt64.toNat_toUInt8, hnumber, UInt8.toNat_ofNat']
    rw [asByte, hint]
    by_cases hlow : BigEndian.value record.value ≤ 255
    · simp only [hsmall.2 hlow, if_true, hbyte, Except.ok.injEq, hsome, hshort, hlow, true_and]
    · simp only [mt hsmall.1 hlow, if_false, hlow, and_false, false_and, reduceCtorEq]

/-- The last number of a field comes from a value that the field admits. -/
theorem exists_admits_of_lastNumber {field : FieldTag} {records : List Tlv} {number : Nat}
    (hadmitted : ∀ record ∈ records, record.Admitted)
    (hfound : lastNumber field records = some number) :
    ∃ value, field.Admits value ∧ BigEndian.value value = number := by
  obtain ⟨value, hvalue, hnumber⟩ := Option.map_eq_some_iff.1 hfound
  obtain ⟨record, hrecord, rfl⟩ := Option.map_eq_some_iff.1 hvalue
  have hmatch := List.find?_some hrecord
  have htag : record.tag = field.tag := of_decide_eq_true hmatch
  obtain ⟨field', htag', hadmits⟩ :=
    hadmitted record (List.mem_reverse.1 (List.mem_of_find?_eq_some hrecord))
  obtain rfl := (tag_eq_iff field' field).1 (htag'.symm.trans htag)
  exact ⟨record.value, hadmits, hnumber⟩

end Tlv

namespace TrustedNameInfo

open FieldTag

theorem challengeOf_eq_ok_iff (record : Tlv) (number : UInt32) :
    challengeOf record = .ok number ↔
      (1 ≤ record.value.length ∧ record.value.length ≤ 4) ∧
        UInt32.ofNat (BigEndian.value record.value) = number := by
  unfold challengeOf
  split
  · next hlong =>
    constructor
    · intro hread
      cases hread
    · rintro ⟨⟨-, hshort⟩, -⟩
      omega
  · next hshort =>
    cases hint : record.asInt with
    | error cause =>
      constructor
      · intro hread
        cases hread
      · rintro ⟨⟨hsome, -⟩, -⟩
        rw [((record.asInt_eq_ok_iff _).2 ⟨⟨hsome, by omega⟩, rfl⟩)] at hint
        cases hint
    | ok found =>
      obtain ⟨⟨hsome, height⟩, rfl⟩ := (record.asInt_eq_ok_iff found).1 hint
      have hword : (UInt64.ofNat (BigEndian.value record.value)).toUInt32 =
          UInt32.ofNat (BigEndian.value record.value) := by
        rw [← UInt32.toNat_inj, UInt64.toNat_toUInt32, BigEndian.toNat_ofNat_value height,
          UInt32.toNat_ofNat']
      rw [Except.map, hword, Except.ok.injEq]
      exact ⟨fun hread => ⟨by omega, hread⟩, fun hread => hread.2⟩

end TrustedNameInfo

end Countersign

/-
# What is built is what is read

A descriptor is built field by field, each field at most once and in a fixed order, and read record
by record, in any order and with repetitions. The two sides meet at the records: what a descriptor
signs is a row of records with different tags, so the last record of a field is the only one. A
descriptor with every required field is therefore read as its own fields, and the bytes that the
reader takes for the signed part are those that were signed.
-/

import Countersign.Proofs.TrustedName.Grammar
import Countersign.TrustedName.Descriptor
import Mathlib.Data.Option.Basic

namespace Countersign

open Countersign.FieldTag

/-- The record of a field and a value. -/
theorem Tlv.ofField_eq_form (field : FieldTag) (value : TlvValue) :
    ofField field value = form ⟨field.tag, value.toBytes⟩ := by
  rw [ofField, form, format, format, ← value.length_toBytes]
  rfl

theorem Tlv.value_length_le_length_form (record : Tlv) :
    record.value.length ≤ record.form.length := by
  rw [form, format, List.length_append]
  exact Nat.le_add_left _ _

/-- A short value takes two more bytes as the record of a field. -/
theorem Tlv.length_ofField {field : FieldTag} {value : TlvValue} (hshort : value.length < 128) :
    (ofField field value).length = value.length + 2 := by
  have htag : Der.encodedLength field.code.toUInt64 = 1 := by cases field <;> decide
  have hlength : UInt64.ofNat value.length < 0x80 := by
    rw [UInt64.lt_iff_toNat_lt, UInt64.toNat_ofNat', Nat.mod_eq_of_lt (by omega)]
    exact hshort
  rw [ofField, format, List.length_append, List.length_append, Der.length_encode,
    Der.length_encode, TlvValue.length_toBytes, htag, Der.encodedLength, if_pos hlength,
    Nat.add_comm]

namespace FieldTag

/-- A record in front counts for its field only where none follows. -/
theorem lastValue_cons (field : FieldTag) (record : Tlv) (records : List Tlv) :
    field.lastValue (record :: records) =
      (field.lastValue records).or
        (if record.tag = field.tag then some record.value else none) := by
  rw [lastValue, List.reverse_cons, List.find?_append, Option.map_or, List.find?_singleton]
  congr 1
  by_cases htag : record.tag = field.tag <;> simp [htag]

theorem lastValue_eq_none {field : FieldTag} {records : List Tlv}
    (hother : ∀ record ∈ records, record.tag ≠ field.tag) : field.lastValue records = none := by
  rw [lastValue, Option.map_eq_none_iff, List.find?_eq_none]
  intro record hrecord
  simp [hother record (List.mem_reverse.1 hrecord)]

end FieldTag

namespace TrustedNameDescriptor

/-- The record of a field that is present, as a record. -/
def record? (entry : FieldTag × Option TlvValue) : Option Tlv :=
  entry.2.map fun value => ⟨entry.1.tag, value.toBytes⟩

/-- The records of these fields, in their order. -/
def recordsOf (entries : List (FieldTag × Option TlvValue)) : List Tlv :=
  entries.filterMap record?

/-- What is written for some fields is the row of their records. -/
theorem flatMap_record (entries : List (FieldTag × Option TlvValue)) :
    entries.flatMap record = (recordsOf entries).flatMap Tlv.form := by
  induction entries with
  | nil => rfl
  | cons entry entries ih =>
    obtain ⟨field, value⟩ := entry
    cases value with
    | none => exact ih
    | some value =>
      rw [List.flatMap_cons, ih, record, Tlv.ofField_eq_form]
      rfl

/-- A record belongs to one of the fields. -/
theorem exists_of_mem_recordsOf {entries : List (FieldTag × Option TlvValue)} {found : Tlv}
    (hfound : found ∈ recordsOf entries) :
    ∃ field value, (field, some value) ∈ entries ∧ found = ⟨field.tag, value.toBytes⟩ := by
  obtain ⟨⟨field, value⟩, hentry, hrecord⟩ := List.mem_filterMap.1 hfound
  obtain ⟨content, rfl, rfl⟩ := Option.map_eq_some_iff.1 hrecord
  exact ⟨field, content, hentry, rfl⟩

theorem lastValue_recordsOf_cons (field first : FieldTag) (content : Option TlvValue)
    (entries : List (FieldTag × Option TlvValue)) :
    field.lastValue (recordsOf ((first, content) :: entries)) =
      (field.lastValue (recordsOf entries)).or
        (if first = field then content.map TlvValue.toBytes else none) := by
  cases content with
  | none =>
    have hskip : recordsOf ((first, none) :: entries) = recordsOf entries := rfl
    rw [hskip, Option.map_none, ite_self, Option.or_none]
  | some content =>
    have htake : recordsOf ((first, some content) :: entries) =
        ⟨first.tag, content.toBytes⟩ :: recordsOf entries := rfl
    rw [htake, lastValue_cons]
    simp only [tag_eq_iff, Option.map_some]

theorem lastValue_recordsOf_eq_none {entries : List (FieldTag × Option TlvValue)}
    {field : FieldTag} (hother : field ∉ entries.map Prod.fst) :
    field.lastValue (recordsOf entries) = none := by
  apply lastValue_eq_none
  intro found hfound htag
  obtain ⟨other, value, hentry, rfl⟩ := exists_of_mem_recordsOf hfound
  apply hother
  rw [← (tag_eq_iff other field).1 htag]
  exact List.mem_map_of_mem hentry

/-- If no field stands twice, the last record of a field is its only one. -/
theorem lastValue_recordsOf {entries : List (FieldTag × Option TlvValue)}
    (honce : (entries.map Prod.fst).Nodup) {field : FieldTag} {value : Option TlvValue}
    (hentry : (field, value) ∈ entries) :
    field.lastValue (recordsOf entries) = value.map TlvValue.toBytes := by
  induction entries with
  | nil => cases hentry
  | cons entry entries ih =>
    obtain ⟨first, content⟩ := entry
    obtain ⟨hfirst, hrest⟩ := List.nodup_cons.1 honce
    rw [lastValue_recordsOf_cons]
    rcases List.mem_cons.1 hentry with hsame | hlater
    · cases hsame
      rw [lastValue_recordsOf_eq_none hfirst, if_pos rfl, Option.none_or]
    · have hother : first ≠ field := by
        rintro rfl
        exact hfirst (List.mem_map.2 ⟨_, hlater, rfl⟩)
      rw [ih hrest hlater, if_neg hother, Option.or_none]

/-- The records that a descriptor signs, in their order. -/
def records (descriptor : TrustedNameDescriptor) : List Tlv :=
  recordsOf descriptor.fields

/-- What a descriptor signs is the row of its records. -/
theorem signedPayload_eq_flatMap (descriptor : TrustedNameDescriptor) :
    descriptor.signedPayload = descriptor.records.flatMap Tlv.form :=
  flatMap_record descriptor.fields

/-- No field of a descriptor is written twice. -/
theorem nodup_fields (descriptor : TrustedNameDescriptor) :
    (descriptor.fields.map Prod.fst).Nodup := by
  simp only [fields, List.map_cons, List.map_nil]
  decide

theorem lastValue_records (descriptor : TrustedNameDescriptor) {field : FieldTag}
    {value : Option TlvValue} (hentry : (field, value) ∈ descriptor.fields) :
    field.lastValue descriptor.records = value.map TlvValue.toBytes :=
  lastValue_recordsOf descriptor.nodup_fields hentry

theorem length_ofByte (byte : UInt8) : (ofByte byte).length = 1 := by
  have hlog : byte.toNat.log2 < 8 := by
    by_cases hzero : byte.toNat = 0
    · rw [hzero]
      decide
    · exact (Nat.log2_lt hzero).2 byte.toNat_lt
  rw [ofByte, TlvValue.length, UInt8.toNat_toUInt64, BigEndian.minimalWidth,
    Nat.div_eq_of_lt hlog]

theorem value_ofByte (byte : UInt8) :
    BigEndian.value (ofByte byte).toBytes = byte.toNat := by
  rw [ofByte, TlvValue.toBytes, BigEndian.value_minimal, UInt8.toNat_toUInt64]

theorem value_ofChallenge (challenge : UInt32) :
    BigEndian.value (ofChallenge challenge).toBytes = challenge.toNat :=
  BigEndian.value_fixed_of_lt challenge.toNat_lt

/-- The number in the record of a one-byte field. -/
theorem lastNumber_of_mem_fields (descriptor : TrustedNameDescriptor) {field : FieldTag}
    {byte : Option UInt8} (hentry : (field, byte.map ofByte) ∈ descriptor.fields) :
    field.lastNumber descriptor.records = byte.map UInt8.toNat := by
  rw [lastNumber, descriptor.lastValue_records hentry]
  cases byte with
  | none => rfl
  | some byte => simp only [Option.map_some, value_ofByte]

/-- The bytes in the record of a field that is written as it is. -/
theorem lastValue_of_mem_fields (descriptor : TrustedNameDescriptor) {field : FieldTag}
    {content : Option Bytes} (hentry : (field, content.map TlvValue.bytes) ∈ descriptor.fields) :
    field.lastValue descriptor.records = content := by
  rw [descriptor.lastValue_records hentry]
  cases content <;> rfl

theorem lastNumber_chainId (descriptor : TrustedNameDescriptor) :
    lastNumber .chainId descriptor.records = descriptor.chainId.map UInt64.toNat := by
  have hentry : (FieldTag.chainId, descriptor.chainId.map TlvValue.int) ∈ descriptor.fields := by
    simp [fields]
  rw [lastNumber, descriptor.lastValue_records hentry]
  cases descriptor.chainId with
  | none => rfl
  | some number => simp only [Option.map_some, TlvValue.toBytes, BigEndian.value_minimal]

theorem lastNumber_challenge (descriptor : TrustedNameDescriptor) :
    lastNumber .challenge descriptor.records = descriptor.challenge.map UInt32.toNat := by
  have hentry : (FieldTag.challenge, descriptor.challenge.map ofChallenge) ∈
      descriptor.fields := by
    simp [fields]
  rw [lastNumber, descriptor.lastValue_records hentry]
  cases descriptor.challenge with
  | none => rfl
  | some challenge => simp only [Option.map_some, value_ofChallenge]

/-- What a reader has collected at the end of a complete descriptor. -/
def draft (descriptor : TrustedNameDescriptor) (signature : Bytes) : TrustedNameInfo.Draft where
  structureType := descriptor.structureType
  version := descriptor.version
  nameType := descriptor.nameType
  nameSource := descriptor.nameSource
  trustedName := descriptor.trustedName
  chainId := descriptor.chainId
  address := descriptor.address
  sourceContract := descriptor.sourceContract
  challenge := descriptor.challenge
  keyId := descriptor.keyId
  algo := descriptor.algo
  signature := some signature
  signedLength := descriptor.signedPayload.length

/-- The fields of a descriptor are collected as they are. -/
theorem signedBy_records (descriptor : TrustedNameDescriptor) (signature : Bytes) :
    TrustedNameInfo.Draft.signedBy descriptor.records signature = descriptor.draft signature := by
  have hbyte : ∀ {field : FieldTag} {byte : Option UInt8},
      (field, byte.map ofByte) ∈ descriptor.fields →
        (field.lastNumber descriptor.records).map UInt8.ofNat = byte := by
    intro field byte hentry
    rw [descriptor.lastNumber_of_mem_fields hentry]
    cases byte with
    | none => rfl
    | some byte => simp only [Option.map_some, UInt8.ofNat_toNat]
  have hchainId : (lastNumber .chainId descriptor.records).map UInt64.ofNat =
      descriptor.chainId := by
    rw [lastNumber_chainId]
    cases descriptor.chainId <;> simp
  have hchallenge : (lastNumber .challenge descriptor.records).map UInt32.ofNat =
      descriptor.challenge := by
    rw [lastNumber_challenge]
    cases descriptor.challenge <;> simp
  simp only [TrustedNameInfo.Draft.signedBy, TrustedNameInfo.Draft.ofRecords, draft,
    TrustedNameInfo.Draft.mk.injEq, hchainId, hchallenge, signedPayload_eq_flatMap, and_true,
    true_and]
  refine ⟨hbyte ?_, hbyte ?_, hbyte ?_, hbyte ?_, descriptor.lastValue_of_mem_fields ?_,
    descriptor.lastValue_of_mem_fields ?_, descriptor.lastValue_of_mem_fields ?_, hbyte ?_,
    hbyte ?_⟩
  all_goals simp [fields]

theorem length_ofInt (number : UInt64) :
    1 ≤ (TlvValue.int number).toBytes.length ∧ (TlvValue.int number).toBytes.length ≤ 8 := by
  rw [TlvValue.toBytes, BigEndian.length_minimal]
  exact ⟨Nat.succ_pos _, Der.minimalWidth_le number⟩

theorem length_ofChallenge (challenge : UInt32) : (ofChallenge challenge).toBytes.length = 4 :=
  BigEndian.length_fixed 4 _

/-- Every field of a descriptor admits the value that is written for it. -/
theorem admits_of_mem_fields (descriptor : TrustedNameDescriptor) :
    ∀ entry ∈ descriptor.fields, ∀ value ∈ entry.2, entry.1.Admits value.toBytes := by
  have hbyte : ∀ byte, 1 ≤ (ofByte byte).toBytes.length ∧ (ofByte byte).toBytes.length ≤ 8 ∧
      BigEndian.value (ofByte byte).toBytes ≤ 255 := by
    intro byte
    rw [value_ofByte]
    exact ⟨(length_ofInt _).1, (length_ofInt _).2, Nat.le_of_lt_succ byte.toNat_lt⟩
  have hchallenge : ∀ challenge, 1 ≤ (ofChallenge challenge).toBytes.length ∧
      (ofChallenge challenge).toBytes.length ≤ 4 := by
    intro challenge
    rw [length_ofChallenge]
    decide
  simp only [fields, List.forall_mem_cons, Option.forall_mem_map]
  refine ⟨fun byte _ => hbyte byte, fun byte _ => hbyte byte, fun byte _ => hbyte byte,
    fun byte _ => hbyte byte, fun _ _ => trivial, fun number _ => length_ofInt number,
    fun _ _ => trivial, fun _ _ => trivial, fun challenge _ => hchallenge challenge,
    fun byte _ => hbyte byte, fun byte _ => hbyte byte, ?_⟩
  intro entry hentry
  cases hentry

/-- Every record that a descriptor signs may stand before the signature. -/
theorem admitted_of_mem_records {descriptor : TrustedNameDescriptor} {found : Tlv}
    (hfound : found ∈ descriptor.records) : found.Admitted := by
  obtain ⟨field, value, hentry, rfl⟩ := exists_of_mem_recordsOf hfound
  exact ⟨field, rfl, descriptor.admits_of_mem_fields _ hentry value rfl⟩

/-- The complete descriptor, however long it is. -/
def complete (descriptor : TrustedNameDescriptor) (signature : Bytes) : Bytes :=
  descriptor.signedPayload ++ Tlv.ofField .derSignature (.bytes signature)

/-- A descriptor is completed exactly if it fits one command. -/
theorem withSignature_eq_ok_iff {descriptor : TrustedNameDescriptor} {signature bytes : Bytes} :
    descriptor.withSignature signature = .ok bytes ↔
      (descriptor.complete signature).length ≤ maxCommandData ∧
        bytes = descriptor.complete signature := by
  rw [withSignature, refuse_else_eq_ok_iff, Nat.not_lt, Except.ok.injEq, eq_comm (a := bytes)]
  rfl

theorem withSignature_of_long {descriptor : TrustedNameDescriptor} {signature : Bytes}
    (hlong : maxCommandData < (descriptor.complete signature).length) :
    descriptor.withSignature signature =
      .error (.elementTooLong (descriptor.complete signature).length) :=
  if_pos hlong

theorem withSignature_eq_error_iff {descriptor : TrustedNameDescriptor} {signature : Bytes}
    {total : Nat} :
    descriptor.withSignature signature = .error (.elementTooLong total) ↔
      total = (descriptor.complete signature).length ∧ maxCommandData < total := by
  by_cases hlong : maxCommandData < (descriptor.complete signature).length
  · rw [withSignature_of_long hlong, Except.error.injEq, WireError.elementTooLong.injEq]
    constructor
    · rintro rfl
      exact ⟨rfl, hlong⟩
    · rintro ⟨htotal, -⟩
      exact htotal.symm
  · rw [withSignature_eq_ok_iff.2 ⟨Nat.not_lt.1 hlong, rfl⟩]
    constructor
    · intro herror
      cases herror
    · rintro ⟨rfl, hlonger⟩
      exact absurd hlonger hlong

/-- The complete descriptor is a row of records, the last of which is the signature. -/
theorem complete_eq_append (descriptor : TrustedNameDescriptor) (signature : Bytes) :
    descriptor.complete signature =
      descriptor.signedPayload ++ Tlv.form ⟨tag .derSignature, signature⟩ := by
  rw [complete, Tlv.ofField_eq_form]
  rfl

/-- No record of a descriptor that fits a command is longer than records can be. -/
theorem fits_of_mem_records {descriptor : TrustedNameDescriptor} {signature : Bytes}
    (hshort : (descriptor.complete signature).length ≤ maxCommandData) {found : Tlv}
    (hfound : found ∈ descriptor.records) : found.Fits := by
  have hmember : found.form.length ≤ (descriptor.records.flatMap Tlv.form).length :=
    (List.sublist_flatten_of_mem (List.mem_map_of_mem hfound)).length_le
  have hvalue := found.value_length_le_length_form
  rw [complete_eq_append, List.length_append, signedPayload_eq_flatMap] at hshort
  have hsmall : found.value.length ≤ maxCommandData := by omega
  exact Nat.lt_of_le_of_lt hsmall (by decide)

/-- A descriptor is collected as it was built, whichever fields it has. -/
theorem parse_complete_of_fits {descriptor : TrustedNameDescriptor} {signature : Bytes}
    (hfits : ∀ found ∈ descriptor.records, found.Fits) (hsignature : signature.length < 2 ^ 64) :
    TrustedNameInfo.parse (descriptor.complete signature) =
      (descriptor.draft signature).finish (descriptor.complete signature) := by
  rw [← signedBy_records, complete_eq_append, signedPayload_eq_flatMap]
  refine TrustedNameInfo.parse_records_append (fun found hfound => ?_) hsignature
  exact ⟨hfits found hfound, admitted_of_mem_records hfound⟩

theorem parse_complete_eq {descriptor : TrustedNameDescriptor} {signature : Bytes}
    (hshort : (descriptor.complete signature).length ≤ maxCommandData) :
    TrustedNameInfo.parse (descriptor.complete signature) =
      (descriptor.draft signature).finish (descriptor.complete signature) := by
  refine parse_complete_of_fits (fun found hfound => fits_of_mem_records hshort hfound) ?_
  have hlast := Tlv.value_length_le_length_form ⟨tag .derSignature, signature⟩
  rw [complete_eq_append, List.length_append] at hshort
  have hsmall : signature.length ≤ maxCommandData :=
    Nat.le_trans hlast (Nat.le_of_add_left_le hshort)
  exact Nat.lt_of_le_of_lt hsmall (by decide)

end TrustedNameDescriptor

namespace TrustedNameInfo

/-- The descriptor with the fields that were read. -/
def descriptor (info : TrustedNameInfo) : TrustedNameDescriptor where
  structureType := some trustedNameStructureType
  version := some info.version
  nameType := some info.nameType
  nameSource := some info.nameSource
  trustedName := some info.trustedName
  chainId := some info.chainId
  address := some info.address
  sourceContract := info.sourceContract
  challenge := info.challenge
  keyId := some info.keyId
  algo := some info.algo

/-- A descriptor with every required field that fits one command is read as its own fields, with the
bytes that were signed and the signature. -/
theorem parse_complete {info : TrustedNameInfo}
    (hsigned : info.signed = info.descriptor.signedPayload)
    (hshort : (info.descriptor.complete info.signature).length ≤ maxCommandData) :
    parse (info.descriptor.complete info.signature) = .ok info := by
  rw [TrustedNameDescriptor.parse_complete_eq hshort]
  refine (Draft.finish_eq_ok_iff _ _ info).2
    ⟨rfl, rfl, rfl, rfl, rfl, rfl, rfl, rfl, rfl, rfl, rfl, rfl, ?_⟩
  rw [hsigned]
  exact List.take_left

end TrustedNameInfo

end Countersign

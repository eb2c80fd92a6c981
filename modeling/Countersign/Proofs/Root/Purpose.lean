/-
# What the root signs, and for which purpose

The root signs credentials, currency configurations and trusted name descriptors with one key, and
a device verifies each of them over its bare bytes. No byte says what they are for: only their
layout can tell the purposes apart, and it does so for most byte strings but not for all. This
module finds the byte strings that serve two purposes. Whether the root can be brought to sign one
of them is a question about the root and is not answered here.

Credentials and configurations begin with a text behind its length, and a signed part begins with a
record. So a signed part serves another purpose only if its first tag is the length of a text.
-/

import Countersign.Proofs.Credential.Form
import Countersign.Proofs.Currency.Form
import Countersign.Proofs.TrustedName.Grammar
import Countersign.TrustedName.Descriptor

namespace Countersign

open Countersign.Field

/-- The byte strings that a device takes for credentials, of either generation. -/
def IsCredentials (bytes : Bytes) : Prop :=
  (decodeWhole? bytes : Option Credential).isSome ∨
    (decodeWhole? bytes : Option CredentialNg).isSome

/-- The byte strings that a device takes for a currency configuration. -/
def IsConfiguration (bytes : Bytes) : Prop :=
  ∃ config, CurrencyConfig.parse bytes = .ok config

/-- The byte strings that the signature of a descriptor covers. -/
def IsSignedPart (bytes : Bytes) : Prop :=
  ∃ descriptor info, TrustedNameInfo.parse descriptor = .ok info ∧ info.signed = bytes

/-- The byte string serves at most one of the purposes for which the root signs. -/
def SinglePurpose (bytes : Bytes) : Prop :=
  ¬(IsCredentials bytes ∧ IsConfiguration bytes) ∧ ¬(IsCredentials bytes ∧ IsSignedPart bytes) ∧
    ¬(IsConfiguration bytes ∧ IsSignedPart bytes)

/-- The layouts of credentials: a name behind its length, then the code of a curve in the later
generation, and then the tag of a point with the 64 bytes of its coordinates. -/
inductive CredentialLayout (name : String) : Bytes → Prop
  | plain {coordinates : Bytes} (hpoint : coordinates.length = 64) :
      CredentialLayout name
        (prefixedForm (Bytes.ofText name) ++ uncompressedPointTag :: coordinates)
  | ng {curve : Curve} {coordinates : Bytes} (hpoint : coordinates.length = 64) :
      CredentialLayout name
        (prefixedForm (Bytes.ofText name) ++ curve.code :: uncompressedPointTag :: coordinates)

theorem isCredentials_iff {bytes : Bytes} :
    IsCredentials bytes ↔
      ∃ name, (Bytes.ofText name).length ≤ maxPrefixed ∧ CredentialLayout name bytes := by
  unfold IsCredentials
  rw [Option.isSome_iff_exists, Option.isSome_iff_exists]
  refine ⟨fun hcredentials => ?_, fun hlayout => ?_⟩
  · rcases hcredentials with ⟨credential, hwhole⟩ | ⟨credential, hwhole⟩
    · obtain ⟨hwritable, hbytes⟩ := Credential.read_eq_ok_iff.1 (decodeWhole?_eq_some_iff.1 hwhole)
      obtain ⟨coordinates, hlength, hpoint⟩ := checkPointForm_eq_ok_iff.1 hwritable.publicKey
      refine ⟨credential.name, hwritable.name, ?_⟩
      rw [hbytes, List.append_nil, Credential.form, hpoint]
      exact .plain hlength
    · obtain ⟨hwritable, hbytes⟩ :=
        CredentialNg.read_eq_ok_iff.1 (decodeWhole?_eq_some_iff.1 hwhole)
      obtain ⟨coordinates, hlength, hpoint⟩ := checkPointForm_eq_ok_iff.1 hwritable.publicKey
      refine ⟨credential.name, hwritable.name, ?_⟩
      rw [hbytes, List.append_nil, CredentialNg.form, hpoint, List.append_assoc,
        List.singleton_append]
      exact .ng hlength
  · obtain ⟨name, hname, hlayout⟩ := hlayout
    cases hlayout with
    | @plain coordinates hlength =>
      refine Or.inl ⟨⟨name, uncompressedPointTag :: coordinates⟩, ?_⟩
      apply decodeWhole?_eq_some_iff.2
      exact Credential.read_eq_ok_iff.2
        ⟨⟨hname, checkPointForm_eq_ok_iff.2 ⟨_, hlength, rfl⟩⟩, (List.append_nil _).symm⟩
    | @ng curve coordinates hlength =>
      refine Or.inr ⟨⟨name, curve, uncompressedPointTag :: coordinates⟩, ?_⟩
      apply decodeWhole?_eq_some_iff.2
      apply CredentialNg.read_eq_ok_iff.2
      refine ⟨⟨hname, checkPointForm_eq_ok_iff.2 ⟨_, hlength, rfl⟩⟩, ?_⟩
      rw [List.append_nil, CredentialNg.form, List.append_assoc, List.singleton_append]

theorem isConfiguration_iff {bytes : Bytes} :
    IsConfiguration bytes ↔ ∃ config : CurrencyConfig, config.Writable ∧ bytes = config.form := by
  simp only [IsConfiguration, CurrencyConfig.parse_eq_ok_iff_form]

/-! ### Credentials that are a configuration -/

/-- Credentials that are a currency configuration as well. The name is the ticker, and what follows
it is taken for an application and the configuration of the application. -/
inductive CredentialsAsConfiguration : Bytes → Prop
  /-- The tag of the point announces an application of four bytes. The byte of the point behind
  them announces the 59 bytes that are left. -/
  | point {name application : String} {subConfig : Bytes}
      (hname : (Bytes.ofText name).length ≤ maxPrefixed)
      (happlication : (Bytes.ofText application).length = 4) (hrest : subConfig.length = 59) :
      CredentialsAsConfiguration
        (prefixedForm (Bytes.ofText name) ++ 0x04 :: (Bytes.ofText application ++
          0x3b :: subConfig))
  /-- The code of the second curve announces an application of one byte, the tag of the point. The
  first byte of the coordinates announces the 63 bytes that are left. -/
  | curve {name : String} {subConfig : Bytes} (hname : (Bytes.ofText name).length ≤ maxPrefixed)
      (hrest : subConfig.length = 63) :
      CredentialsAsConfiguration
        (prefixedForm (Bytes.ofText name) ++ 0x01 :: 0x04 :: 0x3f :: subConfig)

theorem credentialsAsConfiguration_of_layout {name : String} {config : CurrencyConfig}
    (hname : (Bytes.ofText name).length ≤ maxPrefixed) (hwritable : config.Writable)
    (hlayout : CredentialLayout name config.form) :
    CredentialsAsConfiguration config.form := by
  generalize hbytes : config.form = bytes at hlayout
  cases hlayout with
  | @plain coordinates hpoint =>
    have hbody := (prefixedForm_append_inj hwritable.ticker hname hbytes).2
    obtain ⟨hcount, rfl⟩ := length_of_prefixedForm_eq hwritable.application hbody
    have hfour : (Bytes.ofText config.application).length = 4 := hcount
    have hrest : config.subConfig.length = 59 := by
      rw [List.length_append, hfour, prefixedForm, List.length_cons] at hpoint
      omega
    rw [prefixedForm_of_length hrest]
    exact .point hname hfour hrest
  | @ng curve coordinates hpoint =>
    have hbody := (prefixedForm_append_inj hwritable.ticker hname hbytes).2
    obtain ⟨hcount, hlast⟩ := length_of_prefixedForm_eq hwritable.application hbody
    cases curve with
    | secp256k1 =>
      -- The application is empty, so the tag of the point has to announce all coordinates.
      rw [List.length_eq_zero_iff.1 hcount, List.nil_append,
        ← List.append_nil (prefixedForm _)] at hlast
      obtain ⟨hfour, rfl⟩ := length_of_prefixedForm_eq hwritable.subConfig hlast
      rw [List.append_nil, hfour] at hpoint
      exact absurd hpoint (by decide)
    | secp256r1 =>
      obtain ⟨tag, htag⟩ := List.length_eq_one_iff.1 hcount
      rw [htag, List.singleton_append, List.cons.injEq] at hlast
      obtain ⟨-, rfl⟩ := hlast
      have hrest : config.subConfig.length = 63 := Nat.succ.inj hpoint
      rw [prefixedForm_of_length hrest]
      exact .curve hname hrest

theorem isCredentials_and_isConfiguration_iff {bytes : Bytes} :
    IsCredentials bytes ∧ IsConfiguration bytes ↔ CredentialsAsConfiguration bytes := by
  rw [isCredentials_iff, isConfiguration_iff]
  refine ⟨fun hboth => ?_, fun hshared => ?_⟩
  · obtain ⟨⟨name, hname, hlayout⟩, config, hwritable, rfl⟩ := hboth
    exact credentialsAsConfiguration_of_layout hname hwritable hlayout
  · cases hshared with
    | @point name application subConfig hname happlication hrest =>
      have happlication' : (Bytes.ofText application).length ≤ maxPrefixed := by
        rw [happlication]
        decide
      have hrest' : subConfig.length ≤ maxPrefixed := by
        rw [hrest]
        decide
      refine ⟨⟨name, hname, .plain ?_⟩, ⟨name, application, subConfig⟩,
        ⟨hname, happlication', hrest'⟩, ?_⟩
      · rw [List.length_append, List.length_cons, happlication, hrest]
      · rw [CurrencyConfig.form, prefixedForm_of_length happlication, prefixedForm_of_length hrest]
        rfl
    | @curve name subConfig hname hrest =>
      have htag : Bytes.ofText "\u0004" = [0x04] := by decide
      have htag' : (Bytes.ofText "\u0004").length ≤ maxPrefixed := by decide
      have hrest' : subConfig.length ≤ maxPrefixed := by
        rw [hrest]
        decide
      refine ⟨⟨name, hname, @CredentialLayout.ng name .secp256r1 (0x3f :: subConfig) ?_⟩,
        ⟨name, "\u0004", subConfig⟩, ⟨hname, htag', hrest'⟩, ?_⟩
      · rw [List.length_cons, hrest]
      · rw [CurrencyConfig.form, htag, prefixedForm_of_length hrest]
        rfl

/-! ### Signed parts of descriptors that serve another purpose -/

/-- A row of records that the signature of a descriptor can cover: each of them may stand before the
signature, and together they say all that a descriptor has to say. -/
def SignedRecords (records : List Tlv) : Prop :=
  (∀ record ∈ records, record.Fits ∧ record.Admitted) ∧
    ∃ info : TrustedNameInfo, info.Describes records

theorem isSignedPart_iff {bytes : Bytes} :
    IsSignedPart bytes ↔ ∃ records, SignedRecords records ∧ bytes = records.flatMap Tlv.form := by
  refine ⟨fun hpart => ?_, fun hrecords => ?_⟩
  · obtain ⟨descriptor, info, hparse, rfl⟩ := hpart
    obtain ⟨records, hall, hdescribes, hsigned, -, -⟩ :=
      TrustedNameInfo.exists_records_of_parse hparse
    exact ⟨records, ⟨hall, info, hdescribes⟩, hsigned⟩
  · obtain ⟨records, ⟨hall, info, hdescribes⟩, rfl⟩ := hrecords
    -- Any signature will do: the signed part does not depend on it.
    have hparse := @TrustedNameInfo.parse_of_records records
      { info with signed := records.flatMap Tlv.form, signature := [] } hall { hdescribes with }
      rfl (Nat.two_pow_pos 64)
    exact ⟨_, _, hparse, rfl⟩

/-- The tag of a field takes one byte. -/
theorem Tlv.form_of_field (field : FieldTag) (value : Bytes) :
    Tlv.form ⟨field.tag, value⟩ =
      field.code :: (Der.encode (UInt64.ofNat value.length) ++ value) := by
  have hcode : Der.encode field.tag = [field.code] := by cases field <;> decide
  rw [Tlv.form, Tlv.format, hcode]
  rfl

/-- A row whose first value has fewer than 128 bytes begins with a tag and a length of one byte
each. -/
theorem Tlv.flatMap_form_of_short {field : FieldTag} {width : UInt8} {value : Bytes}
    (hshort : width < 0x80) (hvalue : value.length = width.toNat) (later : List Tlv) :
    (⟨field.tag, value⟩ :: later : List Tlv).flatMap Tlv.form =
      field.code :: width :: (value ++ later.flatMap Tlv.form) := by
  have hwidth : width.toNat < 128 := UInt8.lt_iff_toNat_lt.1 hshort
  rw [List.flatMap_cons, Tlv.form_of_field, hvalue, Der.encode_ofNat_of_lt hwidth,
    UInt8.ofNat_toNat]
  rfl

theorem Tlv.Admitted.exists_eq {record : Tlv} (hadmitted : record.Admitted) :
    ∃ (field : FieldTag) (value : Bytes), record = ⟨field.tag, value⟩ := by
  obtain ⟨field, htag, -⟩ := hadmitted
  refine ⟨field, record.value, ?_⟩
  rw [← htag]

theorem SignedRecords.exists_eq_cons {records : List Tlv} (hrecords : SignedRecords records) :
    ∃ (field : FieldTag) (value : Bytes) (later : List Tlv),
      value.length < 2 ^ 64 ∧ records = ⟨field.tag, value⟩ :: later := by
  obtain ⟨hall, info, hdescribes⟩ := hrecords
  cases records with
  | nil => cases hdescribes.structureType
  | cons record later =>
    obtain ⟨hfits, hadmitted⟩ := hall record List.mem_cons_self
    obtain ⟨field, value, rfl⟩ := hadmitted.exists_eq
    exact ⟨field, value, later, hfits, rfl⟩

/-- The front of a row of records, taken for a text behind its length. The tag of the first record
is the length of the text. The length of the first value is the first letter, and has to take one
byte, because no letter begins with the first byte of a longer form. -/
structure FrontAsText (field : FieldTag) (width : UInt8) (letters : Bytes) : Prop where
  count : letters.length + 1 = field.code.toNat
  short : width < 0x80
  text : ∃ text, Bytes.ofText text = width :: letters

theorem FrontAsText.exists_prefixedForm_eq {field : FieldTag} {width : UInt8} {letters : Bytes}
    (hfront : FrontAsText field width letters) :
    ∃ text, (Bytes.ofText text).length ≤ maxPrefixed ∧
      prefixedForm (Bytes.ofText text) = field.code :: width :: letters := by
  obtain ⟨text, htext⟩ := hfront.text
  have hlength : (Bytes.ofText text).length = field.code.toNat := by
    rw [htext, List.length_cons, hfront.count]
  refine ⟨text, ?_, ?_⟩
  · rw [hlength]
    exact Nat.le_of_lt_succ field.code.toNat_lt
  · rw [prefixedForm_of_length hlength, UInt8.ofNat_toNat, htext]

/-- Where a signed part begins with a text behind its length, the first tag is this length and the
length of the first value is the first letter. -/
theorem SignedRecords.frontAsText {records : List Tlv} (hrecords : SignedRecords records)
    {text : String} {rest : Bytes} (hshort : (Bytes.ofText text).length ≤ maxPrefixed)
    (hbytes : prefixedForm (Bytes.ofText text) ++ rest = records.flatMap Tlv.form) :
    ∃ (field : FieldTag) (width : UInt8) (letters value : Bytes) (later : List Tlv),
      FrontAsText field width letters ∧
        prefixedForm (Bytes.ofText text) = field.code :: width :: letters ∧
        value.length = width.toNat ∧ records = ⟨field.tag, value⟩ :: later ∧
        value ++ later.flatMap Tlv.form = letters ++ rest := by
  obtain ⟨field, value, later, hfits, rfl⟩ := hrecords.exists_eq_cons
  rw [List.flatMap_cons, Tlv.form_of_field, List.cons_append] at hbytes
  obtain ⟨hlength, hbody⟩ := length_of_prefixedForm_eq hshort hbytes
  cases htext : Bytes.ofText text with
  | nil =>
    rw [htext] at hlength
    cases field <;> cases hlength
  | cons width letters =>
    rw [htext, List.cons_append, List.append_assoc] at hbody
    obtain ⟨hwidth, hnumber, hrest⟩ := Der.eq_of_encode_append_eq_cons hbody.symm
      (Bytes.isUTF8FirstByte_of_ofText_eq_cons htext)
    have hvalue : value.length = width.toNat := by
      rw [← UInt8.toNat_toUInt64, ← hnumber, UInt64.toNat_ofNat', Nat.mod_eq_of_lt hfits]
    have hcount : letters.length + 1 = field.code.toNat := by
      rw [← hlength, htext, List.length_cons]
    refine ⟨field, width, letters, value, later, ⟨hcount, hwidth, text, htext⟩, ?_, hvalue, rfl,
      hrest⟩
    rw [← htext, prefixedForm_of_length hlength, UInt8.ofNat_toNat]

/-! ### Signed parts that are credentials -/

/-- The tag of a point within a record, between what the record has in front of it and behind it.
No field has this byte for its tag, so it belongs to the length or to the value. -/
inductive PointTagAt : Tlv → Bytes → Bytes → Prop
  /-- The byte is the length of a value of four bytes. -/
  | length {field : FieldTag} {value : Bytes} (hvalue : value.length = 4) :
      PointTagAt ⟨field.tag, value⟩ [field.code] value
  /-- The byte stands in the value. -/
  | value {field : FieldTag} {left right : Bytes} :
      PointTagAt ⟨field.tag, left ++ 0x04 :: right⟩
        (field.code :: (Der.encode (UInt64.ofNat (left ++ 0x04 :: right).length) ++ left)) right

theorem PointTagAt.form_eq {record : Tlv} {left right : Bytes}
    (htag : PointTagAt record left right) : record.form = left ++ 0x04 :: right := by
  cases htag with
  | @length field value hvalue =>
    rw [Tlv.form_of_field, hvalue]
    rfl
  | @value field left right =>
    rw [Tlv.form_of_field, List.cons_append, List.append_assoc]

theorem PointTagAt.flatMap_form_eq {record : Tlv} {left right : Bytes}
    (htag : PointTagAt record left right) (before after : List Tlv) :
    (before ++ record :: after).flatMap Tlv.form =
      (before.flatMap Tlv.form ++ left) ++ 0x04 :: (right ++ after.flatMap Tlv.form) := by
  rw [List.flatMap_append, List.flatMap_cons, htag.form_eq, List.append_assoc, List.append_assoc,
    List.cons_append]

theorem code_ne_pointTag (field : FieldTag) : field.code ≠ 0x04 := by
  cases field <;> decide

/-- A length of one byte that holds the tag of a point is the length of four bytes. -/
theorem eq_four_of_encode_eq_append {length : Nat} (hshort : length < 128) {front digits : Bytes}
    (hencode : Der.encode (UInt64.ofNat length) = front ++ 0x04 :: digits) :
    front = [] ∧ digits = [] ∧ length = 4 := by
  rw [Der.encode_ofNat_of_lt hshort, eq_comm, List.append_eq_singleton_iff] at hencode
  obtain ⟨hfront, hdigits⟩ | ⟨-, hdigits⟩ := hencode
  · obtain ⟨hfour, hdigits⟩ := List.cons.inj hdigits
    have hlength := congrArg UInt8.toNat hfour
    rw [UInt8.toNat_ofNat', Nat.mod_eq_of_lt (by omega)] at hlength
    exact ⟨hfront, hdigits, hlength.symm⟩
  · cases hdigits

/-- The bytes behind the tag of a point are too few for a value whose length takes more than one
byte. -/
theorem pointTagAt_of_form_eq {record : Tlv} (hadmitted : record.Admitted) {left right : Bytes}
    (hform : record.form = left ++ 0x04 :: right) (hright : right.length ≤ 64) :
    PointTagAt record left right := by
  obtain ⟨field, value, rfl⟩ := hadmitted.exists_eq
  rw [Tlv.form_of_field] at hform
  obtain ⟨-, hcode⟩ | ⟨front, rfl, hbody⟩ := List.cons_eq_append_iff.1 hform
  · exact absurd (List.cons.inj hcode).1.symm (code_ne_pointTag field)
  · obtain ⟨inner, rfl, rfl⟩ | ⟨digits, hlength, hvalue⟩ := List.append_eq_append_iff.1 hbody
    · exact .value
    · cases digits with
      | nil =>
        obtain rfl : value = 0x04 :: right := hvalue.symm
        rw [List.append_nil] at hlength
        rw [← hlength, ← List.append_nil (Der.encode _)]
        exact @PointTagAt.value field [] right
      | cons digit digits =>
        rw [List.cons_append, List.cons.injEq] at hvalue
        obtain ⟨rfl, rfl⟩ := hvalue
        have hshort : value.length < 128 := by
          rw [List.length_append] at hright
          omega
        obtain ⟨rfl, rfl, hfour⟩ := eq_four_of_encode_eq_append hshort hlength
        exact .length hfour

/-- No record begins with the tag of a point, so a cut of a signed part in front of this byte goes
through a record. -/
theorem exists_pointTagAt_of_cut {records : List Tlv}
    (hadmitted : ∀ record ∈ records, record.Admitted) {lead rest : Bytes}
    (hcut : records.flatMap Tlv.form = lead ++ 0x04 :: rest) (hrest : rest.length = 64) :
    ∃ (before : List Tlv) (record : Tlv) (after : List Tlv) (left right : Bytes),
      records = before ++ record :: after ∧ PointTagAt record left right ∧
        lead = before.flatMap Tlv.form ++ left ∧ rest = right ++ after.flatMap Tlv.form := by
  rw [List.flatMap_def, List.flatten_eq_append_iff] at hcut
  obtain ⟨front, back, hforms, -, hback⟩ |
    ⟨front, left, first, right, back, hforms, hlead, hback⟩ := hcut
  · obtain ⟨before, later, rfl, -, rfl⟩ := List.map_eq_append_iff.1 hforms
    cases later with
    | nil => cases hback
    | cons record after =>
      have hrecord := hadmitted record (List.mem_append_right before List.mem_cons_self)
      obtain ⟨field, value, rfl⟩ := hrecord.exists_eq
      rw [List.map_cons, List.flatten_cons, Tlv.form_of_field, List.cons_append] at hback
      exact absurd (List.cons.inj hback).1.symm (code_ne_pointTag field)
  · obtain ⟨before, later, rfl, rfl, hlater⟩ := List.map_eq_append_iff.1 hforms
    obtain ⟨record, after, rfl, hform, rfl⟩ := List.map_eq_cons_iff.1 hlater
    obtain ⟨rfl, rfl⟩ := List.cons.inj hback
    have hrecord := hadmitted record (List.mem_append_right before List.mem_cons_self)
    have hright : right.length ≤ 64 := by
      rw [← hrest]
      exact (List.prefix_append right _).length_le
    exact ⟨before, record, after, left, right, rfl, pointTagAt_of_form_eq hrecord hform hright,
      hlead, rfl⟩

/-- The signed part of a descriptor that is laid out as credentials as well. Its front is taken for
the name, which ends in front of the tag of the point or the code of the curve. The coordinates are
what stands behind the tag of the point: the rest of this record and the records that follow. -/
inductive SignedPartAsCredentials : Bytes → Prop
  /-- Credentials of the first generation. -/
  | plain {field : FieldTag} {width : UInt8} {letters left right : Bytes} {record : Tlv}
      {before after : List Tlv} (hfront : FrontAsText field width letters)
      (hrecords : SignedRecords (before ++ record :: after))
      (hname : field.code :: width :: letters = before.flatMap Tlv.form ++ left)
      (htag : PointTagAt record left right)
      (hpoint : right.length + (after.flatMap Tlv.form).length = 64) :
      SignedPartAsCredentials
        (field.code :: width :: (letters ++ 0x04 :: (right ++ after.flatMap Tlv.form)))
  /-- Credentials of the later generation. -/
  | ng {field : FieldTag} {width : UInt8} {letters left right : Bytes} {curve : Curve}
      {record : Tlv} {before after : List Tlv} (hfront : FrontAsText field width letters)
      (hrecords : SignedRecords (before ++ record :: after))
      (hname : field.code :: width :: (letters ++ [curve.code]) = before.flatMap Tlv.form ++ left)
      (htag : PointTagAt record left right)
      (hpoint : right.length + (after.flatMap Tlv.form).length = 64) :
      SignedPartAsCredentials
        (field.code :: width ::
          (letters ++ curve.code :: 0x04 :: (right ++ after.flatMap Tlv.form)))

theorem isCredentials_and_isSignedPart_iff {bytes : Bytes} :
    IsCredentials bytes ∧ IsSignedPart bytes ↔ SignedPartAsCredentials bytes := by
  rw [isCredentials_iff, isSignedPart_iff]
  refine ⟨fun hboth => ?_, fun hshared => ?_⟩
  · obtain ⟨⟨name, hname, hlayout⟩, records, hrecords, hbytes⟩ := hboth
    have hadmitted := fun record hrecord => (hrecords.1 record hrecord).2
    cases hlayout with
    | @plain coordinates hpoint =>
      obtain ⟨field, width, letters, -, -, hfront, hform, -⟩ := hrecords.frontAsText hname hbytes
      obtain ⟨before, record, after, left, right, rfl, htag, hlead, rfl⟩ :=
        exists_pointTagAt_of_cut hadmitted hbytes.symm hpoint
      rw [hform] at hlead ⊢
      rw [List.length_append] at hpoint
      exact .plain hfront hrecords hlead htag hpoint
    | @ng curve coordinates hpoint =>
      obtain ⟨field, width, letters, -, -, hfront, hform, -⟩ := hrecords.frontAsText hname hbytes
      rw [← List.singleton_append, ← List.append_assoc] at hbytes
      obtain ⟨before, record, after, left, right, rfl, htag, hlead, rfl⟩ :=
        exists_pointTagAt_of_cut hadmitted hbytes.symm hpoint
      rw [hform] at hlead ⊢
      rw [List.length_append] at hpoint
      exact .ng hfront hrecords hlead htag hpoint
  · cases hshared with
    | @plain field width letters left right record before after hfront hrecords hname htag hpoint =>
      obtain ⟨name, hshort, hform⟩ := hfront.exists_prefixedForm_eq
      rw [← List.length_append] at hpoint
      refine ⟨⟨name, hshort, ?_⟩, _, hrecords, ?_⟩
      · rw [← List.cons_append, ← List.cons_append, ← hform]
        exact .plain hpoint
      · rw [htag.flatMap_form_eq, ← hname]
        rfl
    | @ng field width letters left right curve record before after hfront hrecords hname htag
        hpoint =>
      obtain ⟨name, hshort, hform⟩ := hfront.exists_prefixedForm_eq
      rw [← List.length_append] at hpoint
      refine ⟨⟨name, hshort, ?_⟩, _, hrecords, ?_⟩
      · rw [← List.cons_append, ← List.cons_append, ← hform]
        exact .ng hpoint
      · rw [htag.flatMap_form_eq, ← hname, List.cons_append, List.cons_append, List.append_assoc]
        rfl

/-! ### Signed parts that are a configuration -/

/-- The signed part of a descriptor that is a currency configuration as well. Its front is taken for
the ticker. What is left of the row behind the ticker is an application and the configuration of
the application, each behind its length. -/
inductive SignedPartAsConfiguration : Bytes → Prop
  | ticker {field : FieldTag} {width : UInt8} {letters value subConfig : Bytes} {later : List Tlv}
      {application : String} (hfront : FrontAsText field width letters)
      (hrecords : SignedRecords (⟨field.tag, value⟩ :: later)) (hvalue : value.length = width.toNat)
      (happlication : (Bytes.ofText application).length ≤ maxPrefixed)
      (hrest : subConfig.length ≤ maxPrefixed)
      (hrow : value ++ later.flatMap Tlv.form =
        letters ++ (prefixedForm (Bytes.ofText application) ++ prefixedForm subConfig)) :
      SignedPartAsConfiguration
        (field.code :: width ::
          (letters ++ (prefixedForm (Bytes.ofText application) ++ prefixedForm subConfig)))

theorem isConfiguration_and_isSignedPart_iff {bytes : Bytes} :
    IsConfiguration bytes ∧ IsSignedPart bytes ↔ SignedPartAsConfiguration bytes := by
  rw [isConfiguration_iff, isSignedPart_iff]
  refine ⟨fun hboth => ?_, fun hshared => ?_⟩
  · obtain ⟨⟨config, hwritable, rfl⟩, records, hrecords, hbytes⟩ := hboth
    obtain ⟨field, width, letters, value, later, hfront, hform, hvalue, rfl, hrow⟩ :=
      hrecords.frontAsText hwritable.ticker hbytes
    rw [CurrencyConfig.form, hform]
    exact .ticker hfront hrecords hvalue hwritable.application hwritable.subConfig hrow
  · cases hshared with
    | @ticker field width letters value subConfig later application hfront hrecords hvalue
        happlication hrest hrow =>
      obtain ⟨ticker, hticker, hform⟩ := hfront.exists_prefixedForm_eq
      refine ⟨⟨⟨ticker, application, subConfig⟩, ⟨hticker, happlication, hrest⟩, ?_⟩, _, hrecords,
        ?_⟩
      · rw [CurrencyConfig.form, hform]
        rfl
      · rw [Tlv.flatMap_form_of_short hfront.short hvalue, hrow]

/-! ### Descriptors as the library builds them -/

/-- What the library signs for a descriptor opens with the structure type and the version, so its
first seven bytes are always the same. -/
theorem exists_signedPayload_eq {descriptor : TrustedNameDescriptor} {nameType : UInt8}
    (hstructureType : descriptor.structureType = some trustedNameStructureType)
    (hversion : descriptor.version = some trustedNameVersion)
    (hnameType : descriptor.nameType = some nameType) :
    ∃ rest, descriptor.signedPayload = [0x01, 0x01, 0x03, 0x02, 0x01, 0x02, 0x70] ++ rest := by
  have hfront : TrustedNameDescriptor.record
        (.structureType, descriptor.structureType.map TrustedNameDescriptor.ofByte) ++
      TrustedNameDescriptor.record
        (.version, descriptor.version.map TrustedNameDescriptor.ofByte) =
      [0x01, 0x01, 0x03, 0x02, 0x01, 0x02] := by
    rw [hstructureType, hversion]
    decide
  have htag : Der.encode FieldTag.trustedNameType.code.toUInt64 = [0x70] := by decide
  rw [TrustedNameDescriptor.signedPayload, TrustedNameDescriptor.fields, List.flatMap_cons,
    List.flatMap_cons, ← List.append_assoc, hfront, List.flatMap_cons, hnameType, Option.map_some,
    TrustedNameDescriptor.record, Tlv.ofField, Tlv.format, htag]
  exact ⟨_, rfl⟩

/-- What the library signs for a descriptor is never taken for credentials. It is taken for a
currency configuration exactly if it has one certain length, which a name and an address of 44
letters each lead to. -/
theorem isConfiguration_signedPayload_iff {descriptor : TrustedNameDescriptor} {nameType : UInt8}
    (hstructureType : descriptor.structureType = some trustedNameStructureType)
    (hversion : descriptor.version = some trustedNameVersion)
    (hnameType : descriptor.nameType = some nameType) :
    ¬IsCredentials descriptor.signedPayload ∧
      (IsConfiguration descriptor.signedPayload ↔ descriptor.signedPayload.length = 119) := by
  obtain ⟨rest, hpayload⟩ := exists_signedPayload_eq hstructureType hversion hnameType
  have hone : (Bytes.ofText "\u0001").length ≤ maxPrefixed := by decide
  have hthree : (Bytes.ofText "\u0002\u0001\u0002").length ≤ maxPrefixed := by decide
  rw [hpayload, isCredentials_iff, isConfiguration_iff]
  refine ⟨fun hcredentials => ?_, fun hconfiguration => ?_, fun hlength => ?_⟩
  · obtain ⟨name, hname, hlayout⟩ := hcredentials
    generalize hbytes : [0x01, 0x01, 0x03, 0x02, 0x01, 0x02, 0x70] ++ rest = bytes at hlayout
    -- Behind the name `01` there is neither the tag of a point nor the code of a curve.
    cases hlayout with
    | plain hpoint =>
      have hbody := (prefixedForm_append_inj hone hname hbytes).2
      exact absurd (List.cons.inj hbody).1 (by decide)
    | @ng curve coordinates hpoint =>
      have hbody := (prefixedForm_append_inj hone hname hbytes).2
      cases curve <;> exact absurd (List.cons.inj hbody).1 (by decide)
  · obtain ⟨config, hwritable, hbytes⟩ := hconfiguration
    have hbody := (prefixedForm_append_inj hone hwritable.ticker hbytes).2
    have hlast := (prefixedForm_append_inj hthree hwritable.application hbody).2
    rw [← List.append_nil (prefixedForm _)] at hlast
    obtain ⟨hcount, hsubConfig⟩ := length_of_prefixedForm_eq hwritable.subConfig hlast.symm
    have hrest : rest = config.subConfig := hsubConfig.symm.trans (List.append_nil _)
    rw [List.length_append, hrest, hcount]
    rfl
  · rw [List.length_append] at hlength
    have hrest : rest.length = 112 := Nat.add_left_cancel hlength
    have hshort : rest.length ≤ maxPrefixed := by
      rw [hrest]
      decide
    refine ⟨⟨"\u0001", "\u0002\u0001\u0002", rest⟩, ⟨hone, hthree, hshort⟩, ?_⟩
    rw [CurrencyConfig.form, prefixedForm_of_length hrest]
    rfl

/-! ### Where two purposes meet -/

/-- The purposes of the root overlap exactly in three kinds of byte strings, and every other byte
string serves at most one purpose. -/
theorem purposes_overlap_iff (bytes : Bytes) :
    (IsCredentials bytes ∧ IsConfiguration bytes ↔ CredentialsAsConfiguration bytes) ∧
      (IsCredentials bytes ∧ IsSignedPart bytes ↔ SignedPartAsCredentials bytes) ∧
      (IsConfiguration bytes ∧ IsSignedPart bytes ↔ SignedPartAsConfiguration bytes) :=
  ⟨isCredentials_and_isConfiguration_iff, isCredentials_and_isSignedPart_iff,
    isConfiguration_and_isSignedPart_iff⟩

/-- A partner key on the second curve whose point opens with `3f`, in the credentials of a partner
with the name `p`. -/
def sharedCredentials : Bytes :=
  [0x01, 0x70, 0x01, 0x04] ++
    BigEndian.fixed 32 0x3fc424067a1f679b0fe2c0ae1093724f6233002be8063cb1cad2cccdb85b089e ++
    BigEndian.fixed 32 0x5bb243009e581be52aedbb47eda98d26cf9fc800f7934c9466aaaef8c6629ecf

/-- What is signed for a name and an address of 44 letters each. -/
def sharedPayload : Bytes :=
  (TrustedNameDescriptor.standard (List.replicate 44 0x41) (List.replicate 44 0x42) 1
    7).signedPayload

/-- What is signed for a shorter name and address, behind a structure type that does not count
because another one follows. -/
def sharedRow : Bytes :=
  Tlv.ofField .structureType (.int uncompressedPointTag.toUInt64) ++
    (TrustedNameDescriptor.standard (List.replicate 16 0x41) (List.replicate 17 0x42) 1
      7).signedPayload

theorem isSignedPart_of_parse {bytes signature : Bytes}
    (hparse : (TrustedNameInfo.parse (bytes ++ signature)).toOption.map (·.signed) = some bytes) :
    IsSignedPart bytes := by
  obtain ⟨info, hinfo, hsigned⟩ := Option.map_eq_some_iff.1 hparse
  exact ⟨_, info, toOption_eq_some_iff.1 hinfo, hsigned⟩

/-- Each two purposes overlap. The credentials are those of a real key, and the longer signed part
is one that the library builds. -/
theorem not_singlePurpose_shared :
    ¬SinglePurpose sharedCredentials ∧ ¬SinglePurpose sharedPayload ∧
      ¬SinglePurpose sharedRow := by
  refine ⟨fun hsingle => hsingle.1 ?_, fun hsingle => hsingle.2.2 ?_, fun hsingle => hsingle.2.1 ?_⟩
  · have hcurve : sharedCredentials =
        prefixedForm (Bytes.ofText "p") ++ 0x01 :: 0x04 :: 0x3f :: sharedCredentials.drop 5 := by
      decide +kernel
    rw [hcurve]
    exact isCredentials_and_isConfiguration_iff.2 (.curve (by decide) (by decide +kernel))
  · have hconfiguration : IsConfiguration sharedPayload :=
      (isConfiguration_signedPayload_iff rfl rfl rfl).2.2 (by decide +kernel)
    have hpart : IsSignedPart sharedPayload :=
      @isSignedPart_of_parse _ (Tlv.ofField .derSignature (.bytes [])) (by decide +kernel)
    exact ⟨hconfiguration, hpart⟩
  · have hcredentials : IsCredentials sharedRow := Or.inl (by decide +kernel)
    have hpart : IsSignedPart sharedRow :=
      @isSignedPart_of_parse _ (Tlv.ofField .derSignature (.bytes [])) (by decide +kernel)
    exact ⟨hcredentials, hpart⟩

end Countersign

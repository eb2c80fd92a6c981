/-
# The grammar of descriptors

A byte string is a descriptor exactly if it is a row of records of known fields, each with a value
that the field admits, and then the record of the signature. Records may repeat and come in any
order; the last one of a field counts. The signature has to cover everything before its own
record, so no byte of a descriptor is left out.

What a reader has collected after some records depends on these records alone. Each step is shown
to keep this up, so nothing has to be said about the order of the steps.
-/

import Countersign.Proofs.Tlv.Walk
import Countersign.Proofs.TrustedName.Fields

namespace Countersign

namespace TrustedNameInfo

open FieldTag Countersign.Tlv

namespace Draft

/-- What is collected after some records before the signature. -/
def ofRecords (records : List Tlv) : Draft where
  structureType := (lastNumber .structureType records).map UInt8.ofNat
  version := (lastNumber .version records).map UInt8.ofNat
  nameType := (lastNumber .trustedNameType records).map UInt8.ofNat
  nameSource := (lastNumber .trustedNameSource records).map UInt8.ofNat
  trustedName := lastValue .trustedName records
  chainId := (lastNumber .chainId records).map UInt64.ofNat
  address := lastValue .address records
  sourceContract := lastValue .trustedNameSourceContract records
  challenge := (lastNumber .challenge records).map UInt32.ofNat
  keyId := (lastNumber .signerKeyId records).map UInt8.ofNat
  algo := (lastNumber .signerAlgo records).map UInt8.ofNat
  signature := none
  signedLength := (records.flatMap form).length

/-- A record that is taken in is one that may stand before the signature. -/
theorem admitted_of_collect {draft next : Draft} {record : Tlv}
    (hcollect : draft.collect record = .ok next) : record.Admitted := by
  cases hfield : record.field? with
  | none =>
    simp only [collect, hfield] at hcollect
    cases hcollect
  | some field =>
    refine ⟨field, (record.field?_eq_some_iff field).1 hfield, ?_⟩
    unfold collect at hcollect
    rw [hfield] at hcollect
    cases field with
    | derSignature => cases hcollect
    | notValidAfter => cases hcollect
    | trustedNameNftId => cases hcollect
    | trustedName => trivial
    | address => trivial
    | trustedNameSourceContract => trivial
    | chainId =>
      obtain ⟨number, hread, -⟩ := map_eq_ok_iff.1 hcollect
      exact ((record.asInt_eq_ok_iff number).1 hread).1
    | challenge =>
      obtain ⟨number, hread, -⟩ := map_eq_ok_iff.1 hcollect
      exact ((challengeOf_eq_ok_iff record number).1 hread).1
    | _ =>
      obtain ⟨byte, hread, -⟩ := map_eq_ok_iff.1 hcollect
      exact ((record.asByte_eq_ok_iff byte).1 hread).1

/-- A record that may stand before the signature is taken in. -/
theorem collect_of_admitted (earlier : List Tlv) {record : Tlv} (hadmitted : record.Admitted) :
    (ofRecords earlier).collect record =
      .ok { ofRecords (earlier ++ [record]) with
        signedLength := (earlier.flatMap form).length } := by
  obtain ⟨field, htag, hvalue⟩ := hadmitted
  have hfield := (record.field?_eq_some_iff field).2 htag
  unfold collect
  rw [hfield]
  simp only [ofRecords, lastNumber, lastValue_concat, htag, tag_eq_iff]
  cases field with
  | derSignature => cases hvalue
  | notValidAfter => cases hvalue
  | trustedNameNftId => cases hvalue
  | trustedName => simp only [reduceCtorEq, if_true, if_false]
  | address => simp only [reduceCtorEq, if_true, if_false]
  | trustedNameSourceContract => simp only [reduceCtorEq, if_true, if_false]
  | chainId =>
    have hread := (record.asInt_eq_ok_iff _).2 ⟨hvalue, rfl⟩
    simp only [hread, Except.map, reduceCtorEq, if_true, if_false, Option.map_some]
  | challenge =>
    have hread := (challengeOf_eq_ok_iff record _).2 ⟨hvalue, rfl⟩
    simp only [hread, Except.map, reduceCtorEq, if_true, if_false, Option.map_some]
  | _ =>
    have hread := (record.asByte_eq_ok_iff _).2 ⟨hvalue, rfl⟩
    simp only [hread, Except.map, reduceCtorEq, if_true, if_false, Option.map_some]

/-- What is collected after some records and the signature. -/
def signedBy (records : List Tlv) (signature : Bytes) : Draft :=
  { ofRecords records with signature := some signature }

theorem field?_ne_of_admitted {record : Tlv} (hadmitted : record.Admitted) :
    record.field? ≠ some .derSignature := by
  obtain ⟨field, htag, hvalue⟩ := hadmitted
  intro hsignature
  have hsame := (record.field?_eq_some_iff field).2 htag
  rw [hsignature] at hsame
  cases hsame
  exact hvalue

/-- One step over a record before the signature. -/
theorem step_of_admitted (earlier : List Tlv) {record : Tlv} (hadmitted : record.Admitted) :
    (ofRecords earlier).step
        (.ok record, (earlier.flatMap form).length + record.form.length) =
      .ok (ofRecords (earlier ++ [record])) := by
  have hunsigned : (ofRecords earlier).signature.isSome = false := rfl
  rw [step, hunsigned, if_neg Bool.false_ne_true, if_neg (field?_ne_of_admitted hadmitted),
    collect_of_admitted earlier hadmitted, ← Reader.length_flatMap_form_concat]
  rfl

/-- The step over the record of the signature. -/
theorem step_of_signature (earlier : List Tlv) (signature : Bytes) (offset : Nat) :
    (ofRecords earlier).step (.ok ⟨tag .derSignature, signature⟩, offset) =
      .ok (signedBy earlier signature) := by
  have hfield := ((⟨tag .derSignature, signature⟩ : Tlv).field?_eq_some_iff .derSignature).2 rfl
  have hunsigned : (ofRecords earlier).signature.isSome = false := rfl
  rw [step, hunsigned, if_neg Bool.false_ne_true, if_pos hfield]
  rfl

/-- Walking over records before the signature, and then over the signature. -/
theorem foldlM_of_admitted (earlier : List Tlv) {records : List Tlv}
    (hadmitted : ∀ record ∈ records, record.Admitted) (signature : Bytes) :
    (Reader.located (earlier.flatMap form).length
        (records ++ [⟨tag .derSignature, signature⟩])).foldlM step (ofRecords earlier) =
      .ok (signedBy (earlier ++ records) signature) := by
  induction records generalizing earlier with
  | nil =>
    rw [List.nil_append, List.append_nil, Reader.located, List.foldlM_cons, step_of_signature]
    rfl
  | cons record records ih =>
    have hrest := ih (earlier ++ [record])
      fun later hlater => hadmitted later (List.mem_cons_of_mem record hlater)
    rw [List.cons_append, Reader.located, List.foldlM_cons,
      step_of_admitted earlier (hadmitted record List.mem_cons_self),
      ← Reader.length_flatMap_form_concat]
    rw [List.append_assoc] at hrest
    exact hrest

/-- A walk that comes to an end with a signature has found it behind all other records, each of
which may stand before it. -/
theorem exists_of_foldlM {earlier records : List Tlv} {draft : Draft} {signature : Bytes}
    (hwalk : (Reader.located (earlier.flatMap form).length records).foldlM step
      (ofRecords earlier) = .ok draft)
    (hsignature : draft.signature = some signature) :
    ∃ signed, records = signed ++ [⟨tag .derSignature, signature⟩] ∧
      (∀ record ∈ signed, record.Admitted) ∧ draft = signedBy (earlier ++ signed) signature := by
  induction records generalizing earlier with
  | nil =>
    cases hwalk
    cases hsignature
  | cons record records ih =>
    rw [Reader.located, List.foldlM_cons] at hwalk
    by_cases hfield : record.field? = some .derSignature
    · obtain ⟨recordTag, value⟩ := record
      obtain rfl : recordTag = tag .derSignature := (Tlv.field?_eq_some_iff _ _).1 hfield
      rw [step_of_signature] at hwalk
      -- The signature is the last record: a step after it is refused.
      cases records with
      | cons later records => cases hwalk
      | nil =>
        cases hwalk
        cases hsignature
        refine ⟨[], rfl, fun record hrecord => absurd hrecord List.not_mem_nil, ?_⟩
        rw [List.append_nil]
    · have hunsigned : (ofRecords earlier).signature.isSome = false := rfl
      cases hcollect : (ofRecords earlier).collect record with
      | error cause =>
        rw [step, hunsigned, if_neg Bool.false_ne_true, if_neg hfield, hcollect] at hwalk
        cases hwalk
      | ok next =>
        have hadmitted := admitted_of_collect hcollect
        rw [step_of_admitted earlier hadmitted, ← Reader.length_flatMap_form_concat] at hwalk
        obtain ⟨signed, rfl, hall, rfl⟩ := ih hwalk
        refine ⟨record :: signed, rfl, List.forall_mem_cons.2 ⟨hadmitted, hall⟩, ?_⟩
        rw [List.append_assoc]
        rfl

/-- Nothing malformed was reported on a walk that comes to an end. -/
theorem exists_record_of_foldlM {items : List (Except WireError Tlv × Nat)} {first last : Draft}
    (hwalk : items.foldlM step first = .ok last) :
    ∀ item ∈ items, ∃ record, item.1 = .ok record := by
  induction items generalizing first with
  | nil =>
    intro item hitem
    cases hitem
  | cons item items ih =>
    rw [List.foldlM_cons] at hwalk
    obtain ⟨reported, offset⟩ := item
    cases reported with
    | error cause => cases hwalk
    | ok record =>
      cases hstep : first.step (.ok record, offset) with
      | error cause =>
        rw [hstep] at hwalk
        cases hwalk
      | ok next =>
        rw [hstep] at hwalk
        exact List.forall_mem_cons.2 ⟨⟨record, rfl⟩, ih hwalk⟩

theorem required_some {α : Type} (field : FieldTag) (value : α) :
    required field (some value) = .ok value :=
  rfl

theorem required_eq_ok_iff {α : Type} (field : FieldTag) (found : Option α) (value : α) :
    required field found = .ok value ↔ found = some value := by
  cases found with
  | none =>
    constructor <;> intro hfound <;> cases hfound
  | some other => rw [required, Except.ok.injEq, Option.some.injEq]

/-- A draft is finished exactly if everything that is required was found. -/
theorem finish_eq_ok_iff (draft : Draft) (bytes : Bytes) (info : TrustedNameInfo) :
    draft.finish bytes = .ok info ↔
      draft.structureType = some trustedNameStructureType ∧ draft.version = some info.version ∧
        draft.nameType = some info.nameType ∧ draft.nameSource = some info.nameSource ∧
        draft.trustedName = some info.trustedName ∧ draft.chainId = some info.chainId ∧
        draft.address = some info.address ∧ draft.sourceContract = info.sourceContract ∧
        draft.challenge = info.challenge ∧ draft.keyId = some info.keyId ∧
        draft.algo = some info.algo ∧ draft.signature = some info.signature ∧
        bytes.take draft.signedLength = info.signed := by
  simp only [finish, bind_eq_ok_iff, required_eq_ok_iff]
  constructor
  · rintro ⟨structureType, hstructureType, hfinish⟩
    split at hfinish
    · cases hfinish
    · next hkind =>
      simp only [bind_eq_ok_iff, required_eq_ok_iff] at hfinish
      obtain ⟨version, hversion, nameType, hnameType, nameSource, hnameSource, trustedName,
        htrustedName, chainId, hchainId, address, haddress, keyId, hkeyId, algo, halgo, signature,
        hsignature, hinfo⟩ := hfinish
      cases hinfo
      rw [Classical.not_not.1 hkind] at hstructureType
      exact ⟨hstructureType, hversion, hnameType, hnameSource, htrustedName, hchainId, haddress,
        rfl, rfl, hkeyId, halgo, hsignature, rfl⟩
  · rintro ⟨hstructureType, hversion, hnameType, hnameSource, htrustedName, hchainId, haddress,
      hsourceContract, hchallenge, hkeyId, halgo, hsignature, hsigned⟩
    refine ⟨trustedNameStructureType, hstructureType, ?_⟩
    rw [if_neg (fun hkind => hkind rfl)]
    simp only [bind_eq_ok_iff, required_eq_ok_iff]
    refine ⟨_, hversion, _, hnameType, _, hnameSource, _, htrustedName, _, hchainId, _, haddress,
      _, hkeyId, _, halgo, _, hsignature, ?_⟩
    rw [hsourceContract, hchallenge, hsigned]

end Draft

/-- What a descriptor says is what the last record of each field says. Fields that need not be
there say nothing if they are not. -/
structure Describes (info : TrustedNameInfo) (records : List Tlv) : Prop where
  structureType : lastNumber .structureType records = some 3
  version : lastNumber .version records = some info.version.toNat
  nameType : lastNumber .trustedNameType records = some info.nameType.toNat
  nameSource : lastNumber .trustedNameSource records = some info.nameSource.toNat
  trustedName : lastValue .trustedName records = some info.trustedName
  chainId : lastNumber .chainId records = some info.chainId.toNat
  address : lastValue .address records = some info.address
  sourceContract : lastValue .trustedNameSourceContract records = info.sourceContract
  challenge : lastNumber .challenge records = info.challenge.map UInt32.toNat
  keyId : lastNumber .signerKeyId records = some info.keyId.toNat
  algo : lastNumber .signerAlgo records = some info.algo.toNat

/-- A number that is small enough is the same before and after it is stored in a word. -/
theorem map_ofNat_eq_iff {Word : Type} {ofNat : Nat → Word} {toNat : Word → Nat} (bound : Nat)
    (hword : ∀ word, ofNat (toNat word) = word)
    (hnumber : ∀ number < bound, toNat (ofNat number) = number) {found : Option Nat}
    (hfound : ∀ number ∈ found, number < bound) (expected : Option Word) :
    found.map ofNat = expected ↔ found = expected.map toNat := by
  constructor
  · rintro rfl
    cases found with
    | none => rfl
    | some number => rw [Option.map_some, Option.map_some, hnumber number (hfound number rfl)]
  · rintro rfl
    cases expected with
    | none => rfl
    | some word => rw [Option.map_some, Option.map_some, hword]

theorem map_toByte_eq_iff {records : List Tlv} (hadmitted : ∀ record ∈ records, record.Admitted)
    (field : FieldTag) (hfield : ∀ value, field.Admits value → BigEndian.value value ≤ 255)
    (byte : UInt8) :
    (lastNumber field records).map UInt8.ofNat = some byte ↔
      lastNumber field records = some byte.toNat := by
  refine map_ofNat_eq_iff 256 (fun byte => UInt8.ofNat_toNat) ?_ ?_ (some byte)
  · intro number hnumber
    rw [UInt8.toNat_ofNat', Nat.mod_eq_of_lt hnumber]
  · intro number hfound
    obtain ⟨value, hvalue, rfl⟩ := exists_admits_of_lastNumber hadmitted hfound
    exact Nat.lt_succ_of_le (hfield value hvalue)

/-- The fields that a draft has collected are the ones that the last records say. -/
theorem describes_iff {records : List Tlv} (hadmitted : ∀ record ∈ records, record.Admitted)
    (info : TrustedNameInfo) :
    info.Describes records ↔
      (Draft.ofRecords records).structureType = some trustedNameStructureType ∧
        (Draft.ofRecords records).version = some info.version ∧
        (Draft.ofRecords records).nameType = some info.nameType ∧
        (Draft.ofRecords records).nameSource = some info.nameSource ∧
        (Draft.ofRecords records).trustedName = some info.trustedName ∧
        (Draft.ofRecords records).chainId = some info.chainId ∧
        (Draft.ofRecords records).address = some info.address ∧
        (Draft.ofRecords records).sourceContract = info.sourceContract ∧
        (Draft.ofRecords records).challenge = info.challenge ∧
        (Draft.ofRecords records).keyId = some info.keyId ∧
        (Draft.ofRecords records).algo = some info.algo := by
  have hstructureType := map_toByte_eq_iff hadmitted .structureType
    (fun _ hvalue => hvalue.2.2) trustedNameStructureType
  have hversion := map_toByte_eq_iff hadmitted .version (fun _ hvalue => hvalue.2.2) info.version
  have hnameType := map_toByte_eq_iff hadmitted .trustedNameType
    (fun _ hvalue => hvalue.2.2) info.nameType
  have hnameSource := map_toByte_eq_iff hadmitted .trustedNameSource
    (fun _ hvalue => hvalue.2.2) info.nameSource
  have hkeyId := map_toByte_eq_iff hadmitted .signerKeyId (fun _ hvalue => hvalue.2.2) info.keyId
  have halgo := map_toByte_eq_iff hadmitted .signerAlgo (fun _ hvalue => hvalue.2.2) info.algo
  have hchainId : (lastNumber .chainId records).map UInt64.ofNat = some info.chainId ↔
      lastNumber .chainId records = some info.chainId.toNat := by
    refine map_ofNat_eq_iff (2 ^ 64) (fun word => UInt64.ofNat_toNat) ?_ ?_ (some info.chainId)
    · intro number hnumber
      rw [UInt64.toNat_ofNat', Nat.mod_eq_of_lt hnumber]
    · intro number hfound
      obtain ⟨value, hvalue, rfl⟩ := exists_admits_of_lastNumber hadmitted hfound
      exact BigEndian.value_lt_of_length_le hvalue.2
  have hchallenge : (lastNumber .challenge records).map UInt32.ofNat = info.challenge ↔
      lastNumber .challenge records = info.challenge.map UInt32.toNat := by
    refine map_ofNat_eq_iff (2 ^ 32) (fun word => UInt32.ofNat_toNat) ?_ ?_ info.challenge
    · intro number hnumber
      rw [UInt32.toNat_ofNat', Nat.mod_eq_of_lt hnumber]
    · intro number hfound
      obtain ⟨value, hvalue, rfl⟩ := exists_admits_of_lastNumber hadmitted hfound
      exact BigEndian.value_lt_of_length_le hvalue.2
  simp only [Draft.ofRecords, hstructureType, hversion, hnameType, hnameSource, hkeyId, halgo,
    hchainId, hchallenge]
  constructor
  · intro hdescribes
    exact ⟨hdescribes.structureType, hdescribes.version, hdescribes.nameType,
      hdescribes.nameSource, hdescribes.trustedName, hdescribes.chainId, hdescribes.address,
      hdescribes.sourceContract, hdescribes.challenge, hdescribes.keyId, hdescribes.algo⟩
  · rintro ⟨hkind, hedition, htype, hsource, hname, hchain, haddress, hcontract, hnonce, hkey,
      hscheme⟩
    exact ⟨hkind, hedition, htype, hsource, hname, hchain, haddress, hcontract, hnonce, hkey,
      hscheme⟩

/-- A byte string that is read as a descriptor is a row of records that may stand before the
signature, and then the record of the signature, which covers the whole row. -/
theorem exists_records_of_parse {bytes : Bytes} {info : TrustedNameInfo}
    (hparse : parse bytes = .ok info) :
    ∃ records : List Tlv,
      (∀ record ∈ records, record.Fits ∧ record.Admitted) ∧ info.Describes records ∧
        info.signed = records.flatMap form ∧ info.signature.length < 2 ^ 64 ∧
        bytes = info.signed ++ form ⟨tag .derSignature, info.signature⟩ := by
  obtain ⟨draft, hwalk, hfinish⟩ := bind_eq_ok_iff.1 hparse
  obtain ⟨hstructureType, hversion, hnameType, hnameSource, htrustedName, hchainId, haddress,
    hsourceContract, hchallenge, hkeyId, halgo, hsignature, hsigned⟩ :=
      (draft.finish_eq_ok_iff bytes info).1 hfinish
  obtain ⟨records, rfl, hfits⟩ :=
    Reader.exists_records_of_items (Draft.exists_record_of_foldlM hwalk)
  rw [Reader.items_of_records hfits] at hwalk
  obtain ⟨signed, rfl, hadmitted, rfl⟩ := @Draft.exists_of_foldlM [] _ _ _ hwalk hsignature
  have hcovered : info.signed = signed.flatMap form := by
    rw [← hsigned, List.flatMap_append]
    exact List.take_left
  have hdescribes := (describes_iff hadmitted info).2 ⟨hstructureType, hversion, hnameType,
    hnameSource, htrustedName, hchainId, haddress, hsourceContract, hchallenge, hkeyId, halgo⟩
  refine ⟨signed, ?_, hdescribes, hcovered, ?_, ?_⟩
  · intro record hrecord
    exact ⟨hfits record (List.mem_append_left _ hrecord), hadmitted record hrecord⟩
  · exact hfits _ (List.mem_append_right _ List.mem_cons_self)
  · rw [hcovered, List.flatMap_append, List.flatMap_singleton]

/-- A row of records that may stand before the signature is collected, and then the signature is.
What is collected decides the rest. -/
theorem parse_records_append {records : List Tlv} {signature : Bytes}
    (hrecords : ∀ record ∈ records, record.Fits ∧ record.Admitted)
    (hlength : signature.length < 2 ^ 64) :
    parse (records.flatMap form ++ form ⟨tag .derSignature, signature⟩) =
      (Draft.signedBy records signature).finish
        (records.flatMap form ++ form ⟨tag .derSignature, signature⟩) := by
  have hfits : ∀ record ∈ records ++ [⟨tag .derSignature, signature⟩], record.Fits := by
    intro record hrecord
    rcases List.mem_append.1 hrecord with hearlier | hlast
    · exact (hrecords record hearlier).1
    · rw [List.mem_singleton.1 hlast]
      exact hlength
  have hbytes : records.flatMap form ++ form ⟨tag .derSignature, signature⟩ =
      (records ++ [(⟨tag .derSignature, signature⟩ : Tlv)]).flatMap form := by
    rw [List.flatMap_append, List.flatMap_singleton]
  have hwalk : (Reader.items ((records ++ [(⟨tag .derSignature, signature⟩ : Tlv)]).flatMap
      form)).1.foldlM Draft.step {} = .ok (Draft.signedBy records signature) := by
    rw [Reader.items_of_records hfits]
    exact Draft.foldlM_of_admitted [] (fun record hrecord => (hrecords record hrecord).2) signature
  rw [parse, hbytes, hwalk]
  rfl

/-- A row of records that may stand before the signature, with every required field among them, is
read as a descriptor as soon as the record of a signature follows it. -/
theorem parse_of_records {records : List Tlv} {info : TrustedNameInfo}
    (hrecords : ∀ record ∈ records, record.Fits ∧ record.Admitted)
    (hdescribes : info.Describes records) (hsigned : info.signed = records.flatMap form)
    (hlength : info.signature.length < 2 ^ 64) :
    parse (info.signed ++ form ⟨tag .derSignature, info.signature⟩) = .ok info := by
  have hadmitted : ∀ record ∈ records, record.Admitted :=
    fun record hrecord => (hrecords record hrecord).2
  obtain ⟨hstructureType, hversion, hnameType, hnameSource, htrustedName, hchainId, haddress,
    hsourceContract, hchallenge, hkeyId, halgo⟩ := (describes_iff hadmitted info).1 hdescribes
  rw [hsigned, parse_records_append hrecords hlength]
  refine (Draft.finish_eq_ok_iff _ _ info).2 ⟨hstructureType, hversion, hnameType, hnameSource,
    htrustedName, hchainId, haddress, hsourceContract, hchallenge, hkeyId, halgo, rfl, ?_⟩
  rw [hsigned]
  exact List.take_left

/-- A byte string is a descriptor exactly if it is a row of records that may stand before the
signature, with every required field among them, and then the record of the signature. The
signature covers all of the row, so that no other byte is left out. -/
theorem parse_eq_ok_iff (bytes : Bytes) (info : TrustedNameInfo) :
    parse bytes = .ok info ↔
      ∃ records : List Tlv,
        (∀ record ∈ records, record.Fits ∧ record.Admitted) ∧ info.Describes records ∧
          info.signed = records.flatMap form ∧ info.signature.length < 2 ^ 64 ∧
          bytes = info.signed ++ form ⟨tag .derSignature, info.signature⟩ := by
  constructor
  · exact exists_records_of_parse
  · rintro ⟨records, hrecords, hdescribes, hsigned, hlength, rfl⟩
    exact parse_of_records hrecords hdescribes hsigned hlength

end TrustedNameInfo

end Countersign

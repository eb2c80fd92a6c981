/-
# What a signature over a descriptor binds

A descriptor is signed as a row of up to eleven records, of which any may be missing. The main
statement is that the bytes of the row determine the descriptor: no byte can move from one field to
the next, and a field that is missing is not made up for by a longer one. Nor are the bytes ever
read as a descriptor with other fields, so one signature of the root stands for one descriptor only.

The length of a field is written as a 64-bit number. Nothing is said of fields that are longer than
such a number can tell, which no memory holds.
-/

import Countersign.Proofs.TrustedName.Omission

namespace Countersign.TrustedNameDescriptor

/-- Every field has a length that the record of the field can tell. -/
structure Fits (descriptor : TrustedNameDescriptor) : Prop where
  trustedName : ∀ name ∈ descriptor.trustedName, name.length < 2 ^ 64
  address : ∀ address ∈ descriptor.address, address.length < 2 ^ 64
  sourceContract : ∀ contract ∈ descriptor.sourceContract, contract.length < 2 ^ 64

/-- The value of no field is too long for its record. -/
theorem Fits.length_lt {descriptor : TrustedNameDescriptor} (hfits : descriptor.Fits) :
    ∀ entry ∈ descriptor.fields, ∀ value ∈ entry.2, value.toBytes.length < 2 ^ 64 := by
  have hint (number : UInt64) : (TlvValue.int number).toBytes.length < 2 ^ 64 :=
    Nat.lt_of_le_of_lt (length_ofInt number).2 (by decide)
  have hchallenge (challenge : UInt32) : (ofChallenge challenge).toBytes.length < 2 ^ 64 := by
    rw [length_ofChallenge]
    decide
  simp only [fields, List.forall_mem_cons, Option.forall_mem_map]
  refine ⟨fun _ _ => hint _, fun _ _ => hint _, fun _ _ => hint _, fun _ _ => hint _,
    hfits.trustedName, fun _ _ => hint _, hfits.address, hfits.sourceContract,
    fun challenge _ => hchallenge challenge, fun _ _ => hint _, fun _ _ => hint _, ?_⟩
  intro entry hentry
  cases hentry

theorem Fits.records {descriptor : TrustedNameDescriptor} (hfits : descriptor.Fits) :
    ∀ found ∈ descriptor.records, found.Fits := by
  intro found hfound
  obtain ⟨field, value, hentry, rfl⟩ := exists_of_mem_recordsOf hfound
  exact hfits.length_lt _ hentry value rfl

/-- The records of a descriptor say what each of its fields is, and whether it is there. -/
theorem eq_of_records_eq {first second : TrustedNameDescriptor}
    (hsame : first.records = second.records) : first = second := by
  have hdraft : first.draft [] = second.draft [] := by
    rw [← signedBy_records, ← signedBy_records, hsame]
  cases first
  cases second
  simp only [draft, TrustedNameInfo.Draft.mk.injEq] at hdraft
  obtain ⟨rfl, rfl, rfl, rfl, rfl, rfl, rfl, rfl, rfl, rfl, rfl, -, -⟩ := hdraft
  rfl

/-- What is read under a signature over the bytes of a descriptor has the fields of the descriptor. -/
theorem descriptor_eq_of_parse {descriptor : TrustedNameDescriptor} (hfits : descriptor.Fits)
    {bytes : Bytes} {info : TrustedNameInfo} (hparse : TrustedNameInfo.parse bytes = .ok info)
    (hsigned : info.signed = descriptor.signedPayload) : info.descriptor = descriptor := by
  obtain ⟨-, -, -, -, hsignature, rfl⟩ := TrustedNameInfo.exists_records_of_parse hparse
  rw [hsigned, ← complete_eq_append, parse_complete_of_fits hfits.records hsignature] at hparse
  cases (finish_eq_iff_readAs List.take_left).1 hparse with
  | whole _ _ hfields _ _ => exact hfields

/-- Descriptors with the same signed bytes are the same, whichever fields they have. So what is read
under one signature, over the bytes of one descriptor, is this descriptor and never another. -/
theorem signedPayload_binds {first : TrustedNameDescriptor} (hfirst : first.Fits) :
    (∀ second : TrustedNameDescriptor, second.Fits →
        first.signedPayload = second.signedPayload → first = second) ∧
      ∀ (bytes : Bytes) (info : TrustedNameInfo), TrustedNameInfo.parse bytes = .ok info →
        info.signed = first.signedPayload → info.descriptor = first := by
  constructor
  · intro second hsecond hsame
    rw [signedPayload_eq_flatMap, signedPayload_eq_flatMap] at hsame
    exact eq_of_records_eq
      (Tlv.readsForms.eq_of_flatMap_eq Tlv.form_ne_nil hfirst.records hsecond.records hsame)
  · intro bytes info hparse hsigned
    exact descriptor_eq_of_parse hfirst hparse hsigned

/-- A standard descriptor with a name of one letter. -/
def sampleNamed : TrustedNameDescriptor :=
  standard [0x61] [0x62] 7 1

/-- A descriptor without a chain, whose name ends in the bytes of the chain of the sample. -/
def sampleAbsorbing : TrustedNameDescriptor :=
  { sampleNamed with
    trustedName := some ([0x61] ++ Tlv.ofField .chainId (.int 7)), chainId := none }

theorem fits_samples : sampleNamed.Fits ∧ sampleAbsorbing.Fits := by
  constructor <;> constructor <;> rintro content ⟨⟩ <;> decide

/-- A name that takes in the record behind it is not signed as the same bytes, although only the
length of the name is another one. The key that a standard descriptor has already changes nothing;
and what is read of the sample is the sample. -/
theorem signedPayload_binds_absorbed :
    sampleNamed.Fits ∧ sampleAbsorbing.Fits ∧
      sampleAbsorbing.signedPayload.length = sampleNamed.signedPayload.length ∧
      sampleNamed.signedPayload ≠ sampleAbsorbing.signedPayload ∧
      sampleNamed = sampleNamed.withKeyId .test ∧
      ∃ info, TrustedNameInfo.parse (sampleNamed.complete []) = .ok info ∧
        info.signed = sampleNamed.signedPayload ∧ info.descriptor = sampleNamed := by
  obtain ⟨hnamed, habsorbing⟩ := fits_samples
  obtain ⟨hunique, hread⟩ := signedPayload_binds hnamed
  refine ⟨hnamed, habsorbing, by decide +kernel, ?_, ?_, ?_⟩
  · intro hsame
    have hequal := hunique sampleAbsorbing habsorbing hsame
    exact absurd (congrArg TrustedNameDescriptor.chainId hequal) (by decide)
  · exact hunique (sampleNamed.withKeyId .test) hnamed (by decide +kernel)
  · have hsome : ((TrustedNameInfo.parse (sampleNamed.complete [])).toOption.map fun info =>
        info.signed) = some sampleNamed.signedPayload := by decide +kernel
    obtain ⟨info, hinfo, hsigned⟩ := Option.map_eq_some_iff.1 hsome
    have hparse := toOption_eq_some_iff.1 hinfo
    exact ⟨info, hparse, hsigned, hread _ info hparse hsigned⟩

end Countersign.TrustedNameDescriptor

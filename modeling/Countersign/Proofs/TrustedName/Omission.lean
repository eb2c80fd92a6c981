/-
# Descriptors with fields left out

Any field of a descriptor can be left out when it is built, and each can have any value. The main
statement is what the reader makes of every descriptor that fits one command. It asks for the
structure type first, and looks at its value before it asks for anything else. Then it asks for the
required fields in one order and names the first that is not there; a descriptor that has them all
is read as it was built. The source contract and the challenge are never asked for.
-/

import Countersign.Proofs.TrustedName.Building

namespace Countersign

/-- What was read is no more than the fields, the bytes that are signed and the signature. -/
theorem TrustedNameInfo.eq_of_descriptor_eq {first second : TrustedNameInfo}
    (hfields : first.descriptor = second.descriptor) (hsigned : first.signed = second.signed)
    (hsignature : first.signature = second.signature) : first = second := by
  cases first
  cases second
  simp only [descriptor, TrustedNameDescriptor.mk.injEq, Option.some.injEq, true_and] at hfields
  obtain ⟨rfl, rfl, rfl, rfl, rfl, rfl, rfl, rfl, rfl, rfl⟩ := hfields
  cases hsigned
  cases hsignature
  rfl

namespace TrustedNameDescriptor

open TrustedNameInfo (Draft)

/-- The fields that a reader asks for after the structure type, in its order. -/
def requiredFields : List FieldTag :=
  [.version, .trustedNameType, .trustedNameSource, .trustedName, .chainId, .address, .signerKeyId,
    .signerAlgo]

/-- Whether a field is there. -/
def has (descriptor : TrustedNameDescriptor) (field : FieldTag) : Bool :=
  descriptor.fields.any fun entry => entry.1 = field ∧ entry.2.isSome

/-- The first of some fields that is not there. -/
def firstAbsent? (descriptor : TrustedNameDescriptor) (order : List FieldTag) : Option FieldTag :=
  order.find? fun field => !descriptor.has field

/-- What a reader has to make of a descriptor with this signature. -/
inductive ReadAs (descriptor : TrustedNameDescriptor) (signature : Bytes) :
    Except WireError TrustedNameInfo → Prop
  /-- Nothing says that it is a trusted name. -/
  | untyped (habsent : descriptor.structureType = none) :
    ReadAs descriptor signature (.error (.missingTag FieldTag.structureType.code))
  /-- It is said to be something else. -/
  | mistyped {kind : UInt8} (hkind : descriptor.structureType = some kind)
    (hother : kind ≠ trustedNameStructureType) :
    ReadAs descriptor signature (.error .invalidEncoding)
  /-- A required field is not there. -/
  | missing {field : FieldTag} (hkind : descriptor.structureType = some trustedNameStructureType)
    (habsent : descriptor.firstAbsent? requiredFields = some field) :
    ReadAs descriptor signature (.error (.missingTag field.code))
  /-- Every required field is there. -/
  | whole {info : TrustedNameInfo}
    (hkind : descriptor.structureType = some trustedNameStructureType)
    (hpresent : descriptor.firstAbsent? requiredFields = none)
    (hfields : info.descriptor = descriptor) (hsigned : info.signed = descriptor.signedPayload)
    (hsignature : info.signature = signature) : ReadAs descriptor signature (.ok info)

/-- An answer after asking for some fields in turn: it names the first that is not there, and only
if all are there is it an answer of some other kind. -/
structure Asks (descriptor : TrustedNameDescriptor) (order : List FieldTag)
    (later : Except WireError TrustedNameInfo → Prop)
    (answer : Except WireError TrustedNameInfo) : Prop where
  missing : ∀ field, descriptor.firstAbsent? order = some field →
    answer = .error (.missingTag field.code)
  whole : descriptor.firstAbsent? order = none → later answer

section Asking

variable {descriptor : TrustedNameDescriptor} {later : Except WireError TrustedNameInfo → Prop}

theorem asks_nil {answer : Except WireError TrustedNameInfo} (hlater : later answer) :
    descriptor.Asks [] later answer where
  missing field hfield := by cases hfield
  whole _ := hlater

/-- Asking for one more field in front. -/
theorem asks_cons {α : Type} {field : FieldTag} {order : List FieldTag} {found : Option α}
    {next : α → Except WireError TrustedNameInfo} (hhas : descriptor.has field = found.isSome)
    (hnext : ∀ value, found = some value → descriptor.Asks order later (next value)) :
    descriptor.Asks (field :: order) later (Draft.required field found >>= next) := by
  cases found with
  | none =>
    have hfirst : descriptor.firstAbsent? (field :: order) = some field := by
      rw [firstAbsent?, List.find?_cons, hhas]
      rfl
    constructor
    · intro other hother
      rw [hfirst, Option.some.injEq] at hother
      rw [← hother]
      rfl
    · intro hnone
      rw [hfirst] at hnone
      cases hnone
  | some value =>
    have hskip : descriptor.firstAbsent? (field :: order) = descriptor.firstAbsent? order := by
      rw [firstAbsent?, List.find?_cons, hhas]
      rfl
    obtain ⟨hmissing, hwhole⟩ := hnext value rfl
    rw [← hskip] at hmissing hwhole
    exact ⟨hmissing, hwhole⟩

end Asking

/-- Once the structure type is known to be that of a trusted name, the required fields are asked
for, and what is collected is what was built. -/
theorem asks_finish {descriptor : TrustedNameDescriptor}
    (hkind : descriptor.structureType = some trustedNameStructureType) (signature bytes : Bytes) :
    descriptor.Asks requiredFields
      (fun answer => ∃ info : TrustedNameInfo, answer = .ok info ∧ info.descriptor = descriptor ∧
        info.signed = bytes.take descriptor.signedPayload.length ∧ info.signature = signature)
      ((descriptor.draft signature).finish bytes) := by
  simp only [Draft.finish, draft, hkind, Draft.required_some]
  change descriptor.Asks requiredFields _ (Draft.required .version descriptor.version >>= _)
  -- one field after the other, as they stand in the list
  refine asks_cons (by simp [has, fields]) fun version hversion => ?_
  refine asks_cons (by simp [has, fields]) fun nameType hnameType => ?_
  refine asks_cons (by simp [has, fields]) fun nameSource hnameSource => ?_
  refine asks_cons (by simp [has, fields]) fun trustedName htrustedName => ?_
  refine asks_cons (by simp [has, fields]) fun chainId hchainId => ?_
  refine asks_cons (by simp [has, fields]) fun address haddress => ?_
  refine asks_cons (by simp [has, fields]) fun keyId hkeyId => ?_
  refine asks_cons (by simp [has, fields]) fun algo halgo => ?_
  refine asks_nil ⟨_, rfl, ?_, rfl, rfl⟩
  rw [TrustedNameInfo.descriptor, ← hkind, ← hversion, ← hnameType, ← hnameSource, ← htrustedName,
    ← hchainId, ← haddress, ← hkeyId, ← halgo]

theorem finish_of_untyped {descriptor : TrustedNameDescriptor}
    (habsent : descriptor.structureType = none) (signature bytes : Bytes) :
    (descriptor.draft signature).finish bytes =
      .error (.missingTag FieldTag.structureType.code) := by
  simp only [Draft.finish, draft, habsent]
  rfl

theorem finish_of_mistyped {descriptor : TrustedNameDescriptor} {kind : UInt8}
    (hkind : descriptor.structureType = some kind) (hother : kind ≠ trustedNameStructureType)
    (signature bytes : Bytes) :
    (descriptor.draft signature).finish bytes = .error .invalidEncoding := by
  simp only [Draft.finish, draft, hkind, Draft.required_some]
  exact if_pos hother

/-- What was collected is finished as what it has to be read as, and as nothing else. -/
theorem finish_eq_iff_readAs {descriptor : TrustedNameDescriptor} {signature bytes : Bytes}
    {answer : Except WireError TrustedNameInfo}
    (hcovered : bytes.take descriptor.signedPayload.length = descriptor.signedPayload) :
    (descriptor.draft signature).finish bytes = answer ↔ descriptor.ReadAs signature answer := by
  constructor
  · rintro rfl
    cases hkind : descriptor.structureType with
    | none =>
      rw [finish_of_untyped hkind]
      exact .untyped hkind
    | some kind =>
      by_cases hname : kind = trustedNameStructureType
      · rw [hname] at hkind
        obtain ⟨hmissing, hwhole⟩ := asks_finish hkind signature bytes
        cases hfirst : descriptor.firstAbsent? requiredFields with
        | some field =>
          rw [hmissing field hfirst]
          exact .missing hkind hfirst
        | none =>
          obtain ⟨info, hfinish, hfields, hsigned, hsignature⟩ := hwhole hfirst
          rw [hfinish]
          exact .whole hkind hfirst hfields (hsigned.trans hcovered) hsignature
      · rw [finish_of_mistyped hkind hname]
        exact .mistyped hkind hname
  · intro hread
    cases hread with
    | untyped habsent => exact finish_of_untyped habsent signature bytes
    | mistyped hkind hother => exact finish_of_mistyped hkind hother signature bytes
    | missing hkind habsent => exact (asks_finish hkind signature bytes).missing _ habsent
    | whole hkind hpresent hfields hsigned hsignature =>
      obtain ⟨found, hfinish, hsame, htaken, hsigner⟩ :=
        (asks_finish hkind signature bytes).whole hpresent
      have hinfo := TrustedNameInfo.eq_of_descriptor_eq (hsame.trans hfields.symm)
        (htaken.trans (hcovered.trans hsigned.symm)) (hsigner.trans hsignature.symm)
      rw [hfinish, hinfo]

/-- A descriptor that takes more than one command can carry is refused with its length. Every other
one is built, whichever fields it has, and what is built is read as exactly what it has to be. -/
theorem built_read_back (descriptor : TrustedNameDescriptor) (signature : Bytes) :
    (∀ total, descriptor.withSignature signature = .error (.elementTooLong total) ↔
        total = descriptor.signedPayload.length +
            (Tlv.ofField .derSignature (.bytes signature)).length ∧
          maxCommandData < total) ∧
      (descriptor.signedPayload.length + (Tlv.ofField .derSignature (.bytes signature)).length ≤
          maxCommandData →
        ∃ bytes, descriptor.withSignature signature = .ok bytes ∧
          ∀ answer, TrustedNameInfo.parse bytes = answer ↔ descriptor.ReadAs signature answer) := by
  rw [← List.length_append, ← complete]
  constructor
  · intro total
    exact withSignature_eq_error_iff
  · intro hshort
    refine ⟨_, withSignature_eq_ok_iff.2 ⟨hshort, rfl⟩, fun answer => ?_⟩
    rw [parse_complete_eq hshort]
    exact finish_eq_iff_readAs List.take_left

/-- A standard descriptor on the chain with the largest id, without address and algorithm. -/
def sampleUnaddressed : TrustedNameDescriptor :=
  { standard [0x61] [0x62] 0xffffffffffffffff 7 with address := none, algo := none }

/-- A standard descriptor on the same chain, without challenge. -/
def sampleUnchallenged : TrustedNameDescriptor :=
  { standard [0x61] [0x62] 0xffffffffffffffff 7 with challenge := none }

/-- Where address and algorithm are left out, the address is missed. Where only the challenge is,
the descriptor is read as it was built. A name of 255 bytes is too much for one command. -/
theorem built_read_back_unaddressed :
    (∃ bytes, sampleUnaddressed.withSignature [0x30, 0x00] = .ok bytes ∧
      TrustedNameInfo.parse bytes = .error (.missingTag FieldTag.address.code)) ∧
    (∃ bytes, sampleUnchallenged.withSignature [0x30, 0x00] = .ok bytes ∧
      ∃ info, TrustedNameInfo.parse bytes = .ok info ∧ info.chainId = 0xffffffffffffffff ∧
        info.challenge = none ∧ info.signature = [0x30, 0x00]) ∧
    (standard (List.replicate 255 0x61) [0x62] 1 7).withSignature [0x30, 0x00] =
      .error (.elementTooLong 292) := by
  obtain ⟨-, hmisses⟩ := built_read_back sampleUnaddressed [0x30, 0x00]
  obtain ⟨-, hreads⟩ := built_read_back sampleUnchallenged [0x30, 0x00]
  obtain ⟨hrefuses, -⟩ :=
    built_read_back (standard (List.replicate 255 0x61) [0x62] 1 7) [0x30, 0x00]
  obtain ⟨bytes, hbuilt, hmissing⟩ := hmisses (by decide)
  obtain ⟨bytes', hbuilt', hread⟩ := hreads (by decide)
  refine ⟨⟨bytes, hbuilt, (hmissing _).2 (.missing rfl (by decide))⟩, ⟨bytes', hbuilt', ?_⟩,
    (hrefuses 292).2 (by decide +kernel)⟩
  have hinfo := (hread (.ok ⟨trustedNameVersion, TrustedNameType.contextAddress.code,
    TrustedNameSource.dynamicResolver.code, [0x61], 0xffffffffffffffff, [0x62], none, none,
    SignerKeyId.test.code, signerAlgoEcdsaSha256, sampleUnchallenged.signedPayload,
    [0x30, 0x00]⟩)).2 (.whole rfl (by decide) rfl rfl rfl)
  exact ⟨_, hinfo, rfl, rfl, rfl⟩

end TrustedNameDescriptor

end Countersign

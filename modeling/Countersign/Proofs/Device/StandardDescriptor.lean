/-
# Standard descriptors, from the builder to the device

A standard descriptor for the current challenge, signed by the root of the device, is refused for
its lengths and for nothing else. A name or an address beyond the limit is refused by the device, if
the descriptor gets there at all; within the limits only a source contract can make it too long to
send. The transaction that the device is in plays no part.

What is assumed of signatures is assumed of the one signature that is sent.
-/

import Countersign.Proofs.Device.Challenge
import Countersign.Proofs.Handle.Registration
import Countersign.Proofs.TrustedName.Building

namespace Countersign

namespace TrustedNameDescriptor

/-- The standard descriptor, with a source contract where one is given. -/
def standardFor (trustedName address : Bytes) (chainId : UInt64) (challenge : UInt32) :
    Option Bytes → TrustedNameDescriptor
  | none => standard trustedName address chainId challenge
  | some contract => (standard trustedName address chainId challenge).withSourceContract contract

theorem standardFor_eq (trustedName address : Bytes) (chainId : UInt64) (challenge : UInt32)
    (contract : Option Bytes) :
    standardFor trustedName address chainId challenge contract =
      { standard trustedName address chainId challenge with sourceContract := contract } := by
  cases contract <;> rfl

/-- Without a source contract, names and addresses within the limits leave room for a signature. -/
theorem length_complete_standard_le {trustedName address signature : Bytes} (chainId : UInt64)
    (challenge : UInt32) (hname : trustedName.length ≤ maxTrustedNameLength)
    (haddress : address.length ≤ maxTrustedNameLength) (hsignature : signature.length ≤ 72) :
    ((standard trustedName address chainId challenge).complete signature).length ≤
      maxCommandData := by
  have hbyte : ∀ field byte, (Tlv.ofField field (ofByte byte)).length = 3 := by
    intro field byte
    rw [Tlv.length_ofField (by rw [length_ofByte]; decide), length_ofByte]
  have hbytes : ∀ field (content : Bytes), content.length < 128 →
      (Tlv.ofField field (.bytes content)).length = content.length + 2 :=
    fun field content hshort => Tlv.length_ofField hshort
  have hchain : (Tlv.ofField .chainId (.int chainId)).length ≤ 10 := by
    have hwidth := Der.minimalWidth_le chainId
    rw [Tlv.length_ofField (Nat.lt_of_le_of_lt hwidth (by decide))]
    exact Nat.add_le_add_right hwidth 2
  have hchallenge : (Tlv.ofField .challenge (ofChallenge challenge)).length = 6 := by
    have hfour : (BigEndian.fixed 4 challenge.toNat).length = 4 := BigEndian.length_fixed 4 _
    rw [ofChallenge, hbytes _ _ (by rw [hfour]; decide), hfour]
  rw [maxTrustedNameLength] at hname haddress
  rw [complete, List.length_append, hbytes _ signature (by omega)]
  simp only [signedPayload, fields, standard, Option.map_some, Option.map_none, List.flatMap_cons,
    List.flatMap_nil, record, List.length_append, List.length_nil, hbyte, hchallenge]
  rw [hbytes _ trustedName (by omega), hbytes _ address (by omega), maxCommandData]
  omega

end TrustedNameDescriptor

namespace TrustedNameInfo

variable {S : SignatureScheme}

/-- What a device reads in a standard descriptor. -/
def standardFor (trustedName address : Bytes) (chainId : UInt64) (challenge : UInt32)
    (contract : Option Bytes) (signature : Bytes) : TrustedNameInfo where
  version := trustedNameVersion
  nameType := TrustedNameType.contextAddress.code
  nameSource := TrustedNameSource.dynamicResolver.code
  trustedName := trustedName
  chainId := chainId
  address := address
  sourceContract := contract
  challenge := some challenge
  keyId := SignerKeyId.test.code
  algo := signerAlgoEcdsaSha256
  signed := (TrustedNameDescriptor.standardFor trustedName address chainId challenge
    contract).signedPayload
  signature := signature

/-- Of the fields of a standard descriptor with the current challenge, a device can only refuse the
lengths. -/
theorem checkFields_standardFor {trustedName address signature : Bytes} {chainId : UInt64}
    {challenge : UInt32} {contract : Option Bytes} :
    (standardFor trustedName address chainId challenge contract signature).checkFields challenge =
      if maxTrustedNameLength < trustedName.length ∨ maxTrustedNameLength < address.length then
        .error .tooLong
      else .ok () := by
  simp only [checkFields, standardFor, ne_eq, not_true, if_false]

/-- A standard descriptor that fits one command is checked for its lengths first, and then for its
signature over what was signed. -/
theorem checkDescriptor_standardFor {trustedName address signature : Bytes} {chainId : UInt64}
    {challenge : UInt32} {contract : Option Bytes} {descriptor : TrustedNameDescriptor}
    (hdescriptor : descriptor = .standardFor trustedName address chainId challenge contract)
    (hshort : (descriptor.complete signature).length ≤ maxCommandData) (root : S.PublicKey) :
    checkDescriptor S root challenge (descriptor.complete signature) =
      if maxTrustedNameLength < trustedName.length ∨ maxTrustedNameLength < address.length then
        .error .tooLong
      else
        (checkSignature S root descriptor.signedPayload signature).mapError .rejectedSignature := by
  have hinfo : (standardFor trustedName address chainId challenge contract signature).descriptor =
      descriptor := by
    rw [hdescriptor, TrustedNameDescriptor.standardFor_eq]
    rfl
  have hparse : parse (descriptor.complete signature) =
      .ok (standardFor trustedName address chainId challenge contract signature) := by
    rw [← hinfo] at hshort ⊢
    exact parse_complete (by rw [hinfo, hdescriptor]; rfl) hshort
  have hsigned : (standardFor trustedName address chainId challenge contract signature).signed =
      descriptor.signedPayload := by
    rw [hdescriptor]
    rfl
  have hfields := @checkFields_standardFor trustedName address signature chainId challenge contract
  rw [checkDescriptor, hparse, ← hsigned]
  -- Once the descriptor is read, its fields and its signature are checked.
  change ((standardFor trustedName address chainId challenge contract signature).checkFields
    challenge >>= fun _ => _) = _
  rw [hfields]
  by_cases hlong :
      maxTrustedNameLength < trustedName.length ∨ maxTrustedNameLength < address.length
  · rw [if_pos hlong, if_pos hlong]
    rfl
  · rw [if_neg hlong, if_neg hlong]
    rfl

end TrustedNameInfo

namespace Device

variable {S : SignatureScheme} {device : Device S} {draw : Draw}

/-- Whatever is handed over as a descriptor is checked as it is, and uses up the challenge. -/
theorem exists_handle_trustedName (device : Device S) (draw : Draw) {descriptor : Bytes}
    (hshort : descriptor.length ≤ maxCommandData) (p1 p2 : UInt8) :
    ∃ command, (Request.trustedName descriptor).toCommand p1 p2 = .ok command ∧
      device.handle draw command =
        ({ device with challenge := nextChallenge device.config draw },
          verdict (device.checkTrustedName descriptor)) := by
  have hdata : encode (Request.trustedName descriptor) = .ok descriptor :=
    Request.encode_of_payload rfl
  have hcommand := (@Request.toCommand_eq_ok_iff _ p1 p2 _).2 ⟨descriptor, hdata, hshort, rfl⟩
  obtain ⟨data, hdata', hhandle⟩ := exists_handle_of_toCommand hcommand device draw
  rw [hdata] at hdata'
  cases hdata'
  exact ⟨_, hcommand, hhandle⟩

/-- A standard descriptor with the current challenge, signed by the root of the device, is accepted
within the limits of names and addresses whenever it can be sent, with any parameters and at every
stage, and the transaction goes on as before. Without a source contract it can always be sent.
Beyond the limits it is too long to send, or the device refuses it for its length, whoever signed
it. -/
theorem standard_accepted_iff (device : Device S) (draw : Draw) {root : Authority S}
    {entropy trustedName address : Bytes} {chainId : UInt64} {contract : Option Bytes}
    {descriptor : TrustedNameDescriptor} (hroot : device.config.root = root.publicKey)
    (hdescriptor :
      descriptor = .standardFor trustedName address chainId device.challenge contract) :
    (trustedName.length ≤ maxTrustedNameLength → address.length ≤ maxTrustedNameLength →
      root.Signs entropy descriptor.signedPayload →
      (∀ complete,
        descriptor.withSignature (root.sign entropy descriptor.signedPayload) = .ok complete →
        ∀ p1 p2, ∃ command, (Request.trustedName complete).toCommand p1 p2 = .ok command ∧
          device.handle draw command =
            ({ device with challenge := nextChallenge device.config draw }, .accept [])) ∧
      (contract = none → ∃ complete,
        descriptor.withSignature (root.sign entropy descriptor.signedPayload) = .ok complete)) ∧
    (maxTrustedNameLength < trustedName.length ∨ maxTrustedNameLength < address.length →
      ∀ signature,
        descriptor.withSignature signature =
            .error (.elementTooLong (descriptor.complete signature).length) ∨
          ∃ complete, descriptor.withSignature signature = .ok complete ∧
            ∀ p1 p2, ∃ command, (Request.trustedName complete).toCommand p1 p2 = .ok command ∧
              device.handle draw command =
                ({ device with challenge := nextChallenge device.config draw },
                  .refuse ⟨.internalError, some (.trustedName .tooLong)⟩)) := by
  refine ⟨fun hname haddress hsigns => ⟨fun complete hcomplete p1 p2 => ?_, fun hcontract => ?_⟩,
    fun hlong signature => ?_⟩
  · obtain ⟨hshort, rfl⟩ := TrustedNameDescriptor.withSignature_eq_ok_iff.1 hcomplete
    obtain ⟨command, hcommand, hhandle⟩ := exists_handle_trustedName device draw hshort p1 p2
    have hlimits :
        ¬(maxTrustedNameLength < trustedName.length ∨ maxTrustedNameLength < address.length) :=
      not_or.2 ⟨Nat.not_lt.2 hname, Nat.not_lt.2 haddress⟩
    have hchecked := TrustedNameInfo.checkDescriptor_standardFor hdescriptor hshort root.publicKey
    rw [if_neg hlimits, hsigns.accepted] at hchecked
    refine ⟨command, hcommand, hhandle.trans ?_⟩
    rw [checkTrustedName, hroot, hchecked]
    rfl
  · subst hcontract hdescriptor
    have hshort := TrustedNameDescriptor.length_complete_standard_le chainId device.challenge hname
      haddress hsigns.length_le
    exact ⟨_, TrustedNameDescriptor.withSignature_eq_ok_iff.2 ⟨hshort, rfl⟩⟩
  · by_cases hshort : (descriptor.complete signature).length ≤ maxCommandData
    · refine Or.inr ⟨_, TrustedNameDescriptor.withSignature_eq_ok_iff.2 ⟨hshort, rfl⟩,
        fun p1 p2 => ?_⟩
      obtain ⟨command, hcommand, hhandle⟩ := exists_handle_trustedName device draw hshort p1 p2
      have hchecked := TrustedNameInfo.checkDescriptor_standardFor hdescriptor hshort
        device.config.root
      rw [if_pos hlong] at hchecked
      refine ⟨command, hcommand, hhandle.trans ?_⟩
      rw [checkTrustedName, hchecked]
      rfl
    · exact Or.inl (TrustedNameDescriptor.withSignature_of_long (Nat.lt_of_not_le hshort))

open Conversation in
/-- A device that trusts the sample root and always has the same challenge. -/
def sampleTrusting : Device Ecdsa.scheme :=
  .new { version := ⟨4, 0, 0⟩, root := sampleRoot.publicKey, fixedChallenge := some 7 } default

/-- The longest name and the longest address within the limits, on the last chain. -/
def sampleLongest : TrustedNameDescriptor :=
  .standard (List.replicate 44 0x6e) (List.replicate 44 0x61) 0xffffffffffffffff 7

/-- The signature of the root over the descriptor. -/
def sampleLongestSignature : Bytes :=
  SignatureSequence.encode 0x68296b663f5243e2d9c14f7bf6e3b914337ee09d2100d4918a241b839fe05799
    0x2c5e60bcd5058d5c45c335832f73616ad5be34c27c1e37e61575b8522fd3cb2b

open Conversation in
/-- The longest descriptor within the limits is sent and accepted. One more byte in the name is
refused by the device, and a name of 300 bytes before it is sent. -/
theorem standard_accepted_longest :
    (∃ complete command, sampleLongest.withSignature sampleLongestSignature = .ok complete ∧
      (Request.trustedName complete).toCommand 0 0 = .ok command ∧
      (sampleTrusting.handle default command).2 = .accept []) ∧
    (∃ complete command,
      (TrustedNameDescriptor.standard (List.replicate 45 0x6e) [] 1 7).withSignature [] =
        .ok complete ∧
      (Request.trustedName complete).toCommand 0 0 = .ok command ∧
      (sampleTrusting.handle default command).2 =
        .refuse ⟨.internalError, some (.trustedName .tooLong)⟩) ∧
    (TrustedNameDescriptor.standard (List.replicate 300 0x6e) [] 1 7).withSignature [] =
      .error (.elementTooLong 335) := by
  have hsign : sampleRoot.sign [] sampleLongest.signedPayload = sampleLongestSignature := by
    decide +kernel
  have haccepted : (checkSignature Ecdsa.scheme sampleRoot.publicKey sampleLongest.signedPayload
      sampleLongestSignature).toOption = some () := by
    decide +kernel
  have hsigns : sampleRoot.Signs [] sampleLongest.signedPayload := by
    refine ⟨?_, ?_⟩
    · rw [hsign]
      decide +kernel
    · rw [hsign]
      exact toOption_eq_some_iff.1 haccepted
  have hroot : sampleTrusting.config.root = sampleRoot.publicKey := by
    rw [sampleTrusting, Device.new]
  have hlongest : sampleLongest = .standardFor (List.replicate 44 0x6e) (List.replicate 44 0x61)
      0xffffffffffffffff sampleTrusting.challenge none := rfl
  obtain ⟨hwithin, -⟩ := standard_accepted_iff sampleTrusting default hroot hlongest
  obtain ⟨haccepts, hsends⟩ := hwithin (by decide) (by decide) hsigns
  obtain ⟨complete, hcomplete⟩ := hsends rfl
  obtain ⟨command, hcommand, hhandle⟩ := haccepts complete hcomplete 0 0
  rw [hsign] at hcomplete
  refine ⟨⟨complete, command, hcomplete, hcommand, congrArg Prod.snd hhandle⟩, ?_, ?_⟩
  · obtain ⟨-, hbeyond⟩ := @standard_accepted_iff _ sampleTrusting default sampleRoot []
      (List.replicate 45 0x6e) [] 1 none _ hroot rfl
    have hshort : ((TrustedNameDescriptor.standard (List.replicate 45 0x6e) [] 1 7).complete
        []).length ≤ maxCommandData := by decide +kernel
    rcases hbeyond (Or.inl (by decide)) [] with hlong | ⟨complete, hcomplete, hrefused⟩
    · have hsent := TrustedNameDescriptor.withSignature_eq_ok_iff.2 ⟨hshort, rfl⟩
      cases hsent.symm.trans hlong
    · obtain ⟨command, hcommand, hhandle⟩ := hrefused 0 0
      exact ⟨complete, command, hcomplete, hcommand, congrArg Prod.snd hhandle⟩
  · obtain ⟨-, hbeyond⟩ := @standard_accepted_iff _ sampleTrusting default sampleRoot []
      (List.replicate 300 0x6e) [] 1 none _ hroot rfl
    have hlength : ((TrustedNameDescriptor.standard (List.replicate 300 0x6e) [] 1 7).complete
        []).length = 335 := by decide +kernel
    rcases hbeyond (Or.inl (by decide +kernel)) [] with hlong | ⟨complete, hcomplete, -⟩
    · rw [← hlength]
      exact hlong
    · obtain ⟨hshort, -⟩ := TrustedNameDescriptor.withSignature_eq_ok_iff.1 hcomplete
      exact absurd hshort (by decide +kernel)

end Device

end Countersign

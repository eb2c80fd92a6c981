/-
# Registering a partner, from end to end

A client that starts a transaction and registers a partner has to agree with the device on the flow,
on the form of the credentials and on the curve of the key. They do agree, whatever the device was
doing before, so that only one thing decides whether a partner can be registered: whether its
credentials fit one command, which leaves less room for the name than the credentials do.

What is assumed of signatures is assumed of the one signature and the one key that are involved.
-/

import Countersign.Proofs.Credential.Authority
import Countersign.Proofs.Device.Authorisation
import Countersign.Proofs.Handle.Conversation

namespace Countersign

/-- What credentials in a flow contain besides the name. -/
def Flow.credentialOverhead (flow : Flow) : Nat :=
  if flow.isNg then 67 else 66

/-- The longest name that a partner can be registered with in a flow, in bytes. -/
def Flow.longestPartner (flow : Flow) : Nat :=
  if flow.isNg then 188 else 189

theorem Flow.ofCode_code (flow : Flow) : ofCode flow.code = flow := by
  cases flow <;> rfl

namespace Authority

variable {S : SignatureScheme} {authority : Authority S} {name : String} {flow : Flow}

/-- What is assumed of a signature that an authority makes over a payload: it is short, and the key
of the authority accepts it. -/
structure Signs (authority : Authority S) (entropy payload : Bytes) : Prop where
  length_le : (authority.sign entropy payload).length ≤ 72
  accepted : checkSignature S authority.publicKey payload (authority.sign entropy payload) = .ok ()

variable {secretKey : S.SecretKey}

theorem length_credentialsFor_withForms
    (hwritable : Credential.Writable ⟨name, S.uncompressed (S.publicKey secretKey)⟩)
    (flow : Flow) :
    ((withForms name secretKey).credentialsFor flow).length =
      (Bytes.ofText name).length + flow.credentialOverhead := by
  have hpoint := length_of_checkPointForm hwritable.publicKey
  rw [credentialsFor, Flow.credentialOverhead]
  by_cases hng : flow.isNg = true
  · rw [if_pos hng, if_pos hng]
    simp only [withForms, CredentialNg.form, Field.prefixedForm, List.length_append,
      List.length_cons, List.length_nil, hpoint, uncompressedPointLength]
  · rw [if_neg hng, if_neg hng]
    simp only [withForms, Credential.form, Field.prefixedForm, List.length_append,
      List.length_cons, hpoint, uncompressedPointLength]

/-- The credentials for a flow are of the form that a device registers in this flow, if the key of
the authority is on the curve of the flow. -/
theorem registers_credentialsFor_withForms
    (hwritable : Credential.Writable ⟨name, S.uncompressed (S.publicKey secretKey)⟩)
    (hcurve : (withForms name secretKey).curve = flow.partnerCurve)
    (hkey : S.publicKey? (withForms name secretKey).curve (withForms name secretKey).point =
      some (withForms name secretKey).publicKey) :
    Registers S flow ((withForms name secretKey).credentialsFor flow) := by
  have hsome := Option.isSome_iff_exists.2 ⟨_, hkey⟩
  rw [Registers, credentialsFor]
  by_cases hng : flow.isNg = true
  · rw [if_pos hng, if_pos hng]
    refine ⟨⟨name, _, _⟩, CredentialNg.read_eq_ok_iff.2 ⟨⟨hwritable.name, hwritable.publicKey⟩, ?_⟩,
      hsome⟩
    exact (List.append_nil _).symm
  · rw [if_neg hng, if_neg hng, ← hcurve]
    exact ⟨_, Credential.read_eq_ok_iff.2 ⟨hwritable, (List.append_nil _).symm⟩, hsome⟩

end Authority

namespace Conversation

variable {S : SignatureScheme} {conversation : Conversation S} {handle : Handle}

/-- A transaction can always be started, and then runs in the flow of the handle. -/
theorem hold_startTransaction (conversation : Conversation S) (handle : Handle) :
    ∃ id later, conversation.hold handle.startTransaction.run = (.ok id, later) ∧
      later.device = conversation.device.start handle.flow.code :=
  ⟨_, hold_request_of_accept rfl (Nat.zero_le _) rfl⟩

/-- The device takes the credentials of a partner at the start of a transaction, in its flow. -/
theorem hold_setPartnerKey {credentials : Bytes} (hshort : credentials.length ≤ maxCommandData)
    (hstage : conversation.device.stage = .started)
    (hflow : conversation.device.flow = handle.flow)
    (hregisters : Registers S handle.flow credentials) :
    ∃ later, conversation.hold (handle.setPartnerKey credentials).run = (.ok (), later) ∧
      later.device = { conversation.device with stage := .partnerKeySet, credentials } := by
  have hcode : handle.flow.code = conversation.device.flow.code := congrArg Flow.code hflow.symm
  rw [← hflow] at hregisters
  have hset := Device.setPartnerKey_eq_ok_iff.2 ⟨⟨hstage, hcode⟩, hregisters, rfl⟩
  obtain ⟨later, hrequest, hdevice⟩ := @hold_request_of_accept S conversation handle
    (.setPartnerKey credentials) credentials [] _ rfl hshort
    (congrArg conversation.device.moveOn hset)
  exact ⟨later, hold_bind_of_ok _ hrequest, hdevice⟩

/-- The device takes a signature of its root over the credentials that it has stored. -/
theorem hold_checkPartner {signature : Bytes} (hshort : signature.length ≤ maxCommandData)
    (hstage : conversation.device.stage = .partnerKeySet)
    (hflow : conversation.device.flow = handle.flow)
    (hsigned : checkSignature S conversation.device.config.root conversation.device.credentials
      signature = .ok ()) :
    ∃ later, conversation.hold (handle.checkPartner signature).run = (.ok (), later) ∧
      later.device = { conversation.device with stage := .partnerChecked } := by
  have hcode : handle.flow.code = conversation.device.flow.code := congrArg Flow.code hflow.symm
  have hchecked := Device.checkPartner_eq_ok_iff.2 ⟨⟨hstage, hcode⟩, hsigned, rfl⟩
  obtain ⟨later, hrequest, hdevice⟩ := @hold_request_of_accept S conversation handle
    (.checkPartner signature) signature [] _ rfl hshort
    (congrArg conversation.device.moveOn hchecked)
  exact ⟨later, hold_bind_of_ok _ hrequest, hdevice⟩

variable {partner root : Authority S} {entropy : Bytes}

/-- A partner whose credentials fit a command is registered at the start of a transaction. -/
theorem hold_register_of_short
    (hshort : (partner.credentialsFor handle.flow).length ≤ maxCommandData)
    (hstage : conversation.device.stage = .started)
    (hflow : conversation.device.flow = handle.flow)
    (hroot : conversation.device.config.root = root.publicKey)
    (hregisters : Registers S handle.flow (partner.credentialsFor handle.flow))
    (hsigns : root.Signs entropy (partner.credentialsFor handle.flow)) :
    ∃ later, conversation.hold (handle.register partner root entropy).run = (.ok (), later) ∧
      later.device.stage = .partnerChecked ∧
      later.device.credentials = partner.credentialsFor handle.flow := by
  obtain ⟨middle, hset, hmiddle⟩ := hold_setPartnerKey hshort hstage hflow hregisters
  have hsignature : (root.sign entropy (partner.credentialsFor handle.flow)).length ≤
      maxCommandData := Nat.le_trans hsigns.length_le (by decide)
  have hsigned : checkSignature S middle.device.config.root middle.device.credentials
      (root.sign entropy (partner.credentialsFor handle.flow)) = .ok () := by
    rw [hmiddle, hroot]
    exact hsigns.accepted
  obtain ⟨later, hchecked, hlater⟩ :=
    hold_checkPartner hsignature (by rw [hmiddle]) (by rw [hmiddle, hflow]) hsigned
  refine ⟨later, (hold_bind_of_ok _ hset).trans hchecked, ?_, ?_⟩
  · rw [hlater]
  · rw [hlater, hmiddle]

/-- A partner whose credentials do not fit a command is not registered, and nothing is asked. -/
theorem hold_register_of_long
    (hlong : maxCommandData < (partner.credentialsFor handle.flow).length) :
    conversation.hold (handle.register partner root entropy).run =
      (.error (.wire (.elementTooLong (partner.credentialsFor handle.flow).length)),
        conversation) := by
  have hset : conversation.hold
      (handle.setPartnerKey (partner.credentialsFor handle.flow)).run =
        (.error (.wire (.elementTooLong (partner.credentialsFor handle.flow).length)),
          conversation) :=
    hold_bind_of_error _ (hold_request_of_long rfl hlong)
  exact hold_bind_of_error _ hset

/-- A partner can be registered after the start of a transaction, whatever the device was doing
before, exactly if its name is short enough for the flow. For a longer name the client gives up
before it asks anything, and the transaction stays as it was started. -/
theorem register_succeeds_iff (conversation : Conversation S) (handle : Handle) (rate : Rate)
    (flow : Flow) {name : String} {secretKey : S.SecretKey} (entropy : Bytes)
    (hroot : conversation.device.config.root = root.publicKey)
    (hpartner : Authority.ofSecretKey name secretKey = .ok partner)
    (hcurve : partner.curve = flow.partnerCurve)
    (hkey : S.publicKey? partner.curve partner.point = some partner.publicKey)
    (hsigns : root.Signs entropy (partner.credentialsFor flow)) :
    ∃ id started, conversation.hold (handle.withFlow rate flow).startTransaction.run =
        (.ok id, started) ∧
      started.device.stage = .started ∧
      ∃ outcome later,
        started.hold ((handle.withFlow rate flow).register partner root entropy).run =
          (outcome, later) ∧
        ((outcome = .ok () ∧ later.device.stage = .partnerChecked ∧
            later.device.credentials = partner.credentialsFor flow) ↔
          (Bytes.ofText name).length ≤ flow.longestPartner) ∧
        (flow.longestPartner < (Bytes.ofText name).length →
          outcome = .error (.wire
            (.elementTooLong ((Bytes.ofText name).length + flow.credentialOverhead))) ∧
          later = started) := by
  obtain ⟨id, started, hstart, hdevice⟩ :=
    hold_startTransaction conversation (handle.withFlow rate flow)
  have hstage : started.device.stage = .started := by rw [hdevice, Device.start]
  have hflow : started.device.flow = flow := by
    rw [hdevice]
    exact flow.ofCode_code
  obtain ⟨hwritable, rfl⟩ := Authority.ofSecretKey_eq_ok_iff.1 hpartner
  have hlength := Authority.length_credentialsFor_withForms hwritable flow
  have hfits : ((Authority.withForms name secretKey).credentialsFor flow).length ≤ maxCommandData ↔
      (Bytes.ofText name).length ≤ flow.longestPartner := by
    rw [hlength, Flow.credentialOverhead, Flow.longestPartner, maxCommandData]
    split <;> omega
  refine ⟨id, started, hstart, hstage, ?_⟩
  by_cases hshort :
      ((Authority.withForms name secretKey).credentialsFor flow).length ≤ maxCommandData
  · have hroot' : started.device.config.root = root.publicKey := by
      rw [hdevice]
      exact hroot
    have hregisters := Authority.registers_credentialsFor_withForms hwritable hcurve hkey
    obtain ⟨later, hregister, hchecked, hcredentials⟩ := @hold_register_of_short S started
      (handle.withFlow rate flow) _ root entropy hshort hstage hflow hroot' hregisters hsigns
    refine ⟨_, later, hregister, ?_, ?_⟩
    · exact iff_of_true ⟨rfl, hchecked, hcredentials⟩ (hfits.1 hshort)
    · intro hlong
      exact absurd (hfits.1 hshort) (Nat.not_le.2 hlong)
  · have hregister := @hold_register_of_long S started (handle.withFlow rate flow) _ root entropy
      (Nat.lt_of_not_le hshort)
    refine ⟨_, _, hregister, ?_, ?_⟩
    · refine iff_of_false ?_ (mt hfits.2 hshort)
      rintro ⟨hok, -, -⟩
      cases hok
    · intro _
      rw [← hlength]
      exact ⟨rfl, rfl⟩

/-- The root that devices in test mode trust. -/
def sampleRoot : Authority Ecdsa.scheme :=
  .withForms rootName (⟨rootCurve,
    0xb1ed47ef58f782e2bc4d5abe70ef66d9009c2957967017054470e0f3e10f5833⟩ : Ecdsa.SecretKey)

/-- The smallest secret on the second curve. -/
def sampleSecret : Ecdsa.SecretKey :=
  ⟨.secp256r1, 1⟩

/-- A partner with this secret. -/
def samplePartner : Authority Ecdsa.scheme :=
  .withForms "p" sampleSecret

/-- A device that trusts the root, before anything has happened. -/
def sampleConversation : Conversation Ecdsa.scheme where
  device := .new { version := ⟨4, 0, 0⟩, root := sampleRoot.publicKey } default
  history := []
  draw := fun _ => default

/-- A handle for a sale of the later generation. -/
def sampleHandle : Handle :=
  Handle.withFlow {} .floating .sellNg

/-- The signature of the root over the credentials of the partner. -/
def sampleSignature : Bytes :=
  SignatureSequence.encode 0xa0bd0c0cf8060c3a22bfc21c52f62ee8ec62d68132af6a357442aca166f3a919
    0x35fa780a0f9acd7764c20dc723868d00ea774395726ddc3fa8d8d625092b2dcc

/-- A partner with a name of one letter is registered for a sale. -/
theorem register_succeeds_sample :
    ∃ id started later, sampleConversation.hold sampleHandle.startTransaction.run =
        (.ok id, started) ∧
      started.hold (sampleHandle.register samplePartner sampleRoot []).run = (.ok (), later) ∧
      later.device.stage = .partnerChecked := by
  have hpoint : (checkPointForm (Ecdsa.scheme.uncompressed
      (Ecdsa.scheme.publicKey sampleSecret))).toOption = some () := by decide +kernel
  have hpartner : Authority.ofSecretKey "p" sampleSecret = .ok samplePartner :=
    Authority.ofSecretKey_eq_ok_iff.2 ⟨⟨by decide, toOption_eq_some_iff.1 hpoint⟩, rfl⟩
  have hsign : sampleRoot.sign [] (samplePartner.credentialsFor .sellNg) = sampleSignature := by
    decide +kernel
  have haccepted : (checkSignature Ecdsa.scheme sampleRoot.publicKey
      (samplePartner.credentialsFor .sellNg) sampleSignature).toOption = some () := by
    decide +kernel
  have hsigns : sampleRoot.Signs [] (samplePartner.credentialsFor .sellNg) := by
    refine ⟨?_, ?_⟩
    · rw [hsign]
      decide +kernel
    · rw [hsign]
      exact toOption_eq_some_iff.1 haccepted
  have hroot : sampleConversation.device.config.root = sampleRoot.publicKey := by
    rw [sampleConversation, Device.new]
  obtain ⟨id, started, hstart, -, outcome, later, hregister, hlimit, -⟩ :=
    register_succeeds_iff sampleConversation {} .floating .sellNg [] hroot hpartner
      (by decide +kernel) (by decide +kernel) hsigns
  obtain ⟨hok, hchecked, -⟩ := hlimit.2 (by decide)
  rw [hok] at hregister
  exact ⟨id, started, later, hstart, hregister, hchecked⟩

end Conversation

end Countersign

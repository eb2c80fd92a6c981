/-
# One command at a device

Every command that a device handles is either carried out or refused. This module says once what
carrying out each instruction takes and what it leaves behind, and that a refusal leaves the device
as it was, but for the challenge that a refused descriptor has used up. What holds of whole runs is
derived from these cases, so that nothing else has to open the device.
-/

import Countersign.Device
import Countersign.Proofs.Wire.Reading

namespace Countersign

/-- The device can register these credentials in this flow: they take up all of the bytes in the
form of the flow, and their point is a key on the curve that they name, or else on the curve of the
flow. -/
def Registers (S : SignatureScheme) (flow : Flow) (bytes : Bytes) : Prop :=
  if flow.isNg then
    ∃ credential : CredentialNg, CredentialNg.read bytes = .ok (credential, []) ∧
      (S.publicKey? credential.curve credential.publicKey).isSome
  else
    ∃ credential : Credential, Credential.read bytes = .ok (credential, []) ∧
      (S.publicKey? flow.partnerCurve credential.publicKey).isSome

/-- A key is found in a form of credentials exactly when all of the bytes are of this form and name
a key. -/
theorem exists_key_iff {S : SignatureScheme} {α : Type} [Decode α] {bytes : Bytes}
    (point : α → Curve × Bytes) :
    (∃ credential : α, Decode.read bytes = .ok (credential, []) ∧
        (S.publicKey? (point credential).1 (point credential).2).isSome) ↔
      ∃ found key, (decodeWhole? bytes).map point = some found ∧
        S.publicKey? found.1 found.2 = some key := by
  constructor
  · rintro ⟨credential, hread, hkey⟩
    obtain ⟨key, hkey⟩ := Option.isSome_iff_exists.1 hkey
    have hwhole := decodeWhole?_eq_some_iff.2 hread
    exact ⟨_, key, Option.map_eq_some_iff.2 ⟨credential, hwhole, rfl⟩, hkey⟩
  · rintro ⟨found, key, hfound, hkey⟩
    obtain ⟨credential, hwhole, rfl⟩ := Option.map_eq_some_iff.1 hfound
    have hread := decodeWhole?_eq_some_iff.1 hwhole
    exact ⟨credential, hread, Option.isSome_iff_exists.2 ⟨key, hkey⟩⟩

/-- The device finds a key in the credentials exactly when the flow can register them. -/
theorem registers_iff {S : SignatureScheme} {flow : Flow} {bytes : Bytes} :
    Registers S flow bytes ↔
      ∃ found key, registeredPoint? flow bytes = some found ∧
        S.publicKey? found.1 found.2 = some key := by
  unfold Registers registeredPoint?
  by_cases hng : flow.isNg = true
  · rw [if_pos hng, if_pos hng]
    exact exists_key_iff fun credential : CredentialNg =>
      (credential.curve, credential.publicKey)
  · rw [if_neg hng, if_neg hng]
    exact exists_key_iff fun credential : Credential => (flow.partnerCurve, credential.publicKey)

/-- When this outcome is a refusal, its word is not the one for success. -/
def Refusal.Genuine {α : Type} (outcome : Except Refusal α) : Prop :=
  ∀ refusal, outcome = .error refusal → refusal.status ≠ .success

namespace Refusal

variable {α β : Type}

theorem genuine_ok (value : α) : Genuine (.ok value) := by
  intro refusal hrefused
  cases hrefused

theorem genuine_error {refusal : Refusal} (hstatus : refusal.status ≠ .success) :
    Genuine (.error refusal : Except Refusal α) := by
  intro found hrefused
  cases hrefused
  exact hstatus

theorem Genuine.bind {first : Except Refusal α} (hfirst : Genuine first)
    {rest : α → Except Refusal β} (hrest : ∀ value, Genuine (rest value)) :
    Genuine (first >>= rest) := by
  cases first with
  | error refusal => exact genuine_error (hfirst refusal rfl)
  | ok value => exact hrest value

end Refusal

namespace Device

open Refusal

variable {S : SignatureScheme} {device next : Device S} {draw : Draw} {p2 : UInt8} {data : Bytes}

theorem checkFlow_eq_ok_iff {expected : Stage} :
    device.checkFlow p2 expected = .ok () ↔ device.stage = expected ∧ p2 = device.flow.code := by
  unfold checkFlow
  by_cases hstage : device.stage = expected <;> by_cases hflow : p2 = device.flow.code <;>
    simp [hstage, hflow]

theorem genuine_checkFlow (p2 : UInt8) (expected : Stage) :
    Genuine (device.checkFlow p2 expected) := by
  unfold checkFlow
  split
  · exact genuine_error (by decide)
  · split
    · exact genuine_error (by decide)
    · exact genuine_ok ()

/-- The key of a partner is set right after the start of a transaction, in the same flow. -/
theorem setPartnerKey_eq_ok_iff :
    device.setPartnerKey p2 data = .ok next ↔
      (device.stage = .started ∧ p2 = device.flow.code) ∧ Registers S device.flow data ∧
        next = { device with stage := .partnerKeySet, credentials := data } := by
  rw [registers_iff, ← checkFlow_eq_ok_iff]
  unfold setPartnerKey
  cases hflow : device.checkFlow p2 .started with
  | error refusal => simp [bind, Except.bind]
  | ok _ =>
    cases hfound : registeredPoint? device.flow data with
    | none => simp [bind, Except.bind]
    | some found =>
      cases hkey : S.publicKey? found.1 found.2 with
      | none => simp [bind, Except.bind, hkey]
      | some key => simp [bind, Except.bind, hkey, eq_comm]

theorem genuine_setPartnerKey (p2 : UInt8) (data : Bytes) :
    Genuine (device.setPartnerKey p2 data) := by
  refine (genuine_checkFlow p2 .started).bind fun _ => ?_
  split
  · exact genuine_error (by decide)
  · split
    · exact genuine_error (by decide)
    · exact genuine_ok _

/-- A partner is vouched for right after its key was set, in the same flow, by a signature of the
root over the very credentials that were set. -/
theorem checkPartner_eq_ok_iff :
    device.checkPartner p2 data = .ok next ↔
      (device.stage = .partnerKeySet ∧ p2 = device.flow.code) ∧
        checkSignature S device.config.root device.credentials data = .ok () ∧
        next = { device with stage := .partnerChecked } := by
  rw [← checkFlow_eq_ok_iff]
  unfold checkPartner
  cases hflow : device.checkFlow p2 .partnerKeySet with
  | error refusal => simp [bind, Except.bind]
  | ok _ =>
    cases hsigned : checkSignature S device.config.root device.credentials data with
    | error cause => simp [bind, Except.bind]
    | ok _ => simp [bind, Except.bind, eq_comm]

theorem genuine_checkPartner (p2 : UInt8) (data : Bytes) :
    Genuine (device.checkPartner p2 data) := by
  refine (genuine_checkFlow p2 .partnerKeySet).bind fun _ => ?_
  split
  · exact genuine_error (by simp)
  · exact genuine_ok _

/-- An address is checked only for a partner that was vouched for, in the same flow, and with a
currency configuration that the root has signed. -/
theorem checkAddress_eq_ok_iff :
    device.checkAddress p2 data = .ok () ↔
      (device.stage = .partnerChecked ∧ p2 = device.flow.code) ∧
        ∃ check config, AddressCheck.read data = .ok (check, []) ∧
          CurrencyConfig.parse check.config = .ok config ∧
          checkSignature S device.config.root check.config check.signature = .ok () := by
  rw [← checkFlow_eq_ok_iff]
  unfold checkAddress
  cases hflow : device.checkFlow p2 .partnerChecked with
  | error refusal => simp [bind, Except.bind]
  | ok _ =>
    cases hcheck : (decodeWhole? data : Option AddressCheck) with
    | none =>
      have hread : ∀ check, AddressCheck.read data ≠ .ok (check, []) := fun check hread => by
        rw [decodeWhole?_eq_some_iff.2 hread] at hcheck
        cases hcheck
      simp [bind, Except.bind, hread]
    | some check =>
      have hread : AddressCheck.read data = .ok (check, []) := decodeWhole?_eq_some_iff.1 hcheck
      cases hconfig : CurrencyConfig.parse check.config with
      | error cause => simp [bind, Except.bind, hread, hconfig]
      | ok config =>
        cases hsigned : checkSignature S device.config.root check.config check.signature with
        | error cause => simp [bind, Except.bind, hread, hconfig, hsigned]
        | ok _ => simp [bind, Except.bind, hread, hconfig, hsigned]

theorem genuine_checkAddress (p2 : UInt8) (data : Bytes) :
    Genuine (device.checkAddress p2 data) := by
  refine (genuine_checkFlow p2 .partnerChecked).bind fun _ => ?_
  split
  · exact genuine_error (by decide)
  · split
    · exact genuine_error (by decide)
    · split
      · exact genuine_error (by simp)
      · exact genuine_ok ()

theorem genuine_checkTrustedName (data : Bytes) : Genuine (device.checkTrustedName data) := by
  unfold checkTrustedName
  split
  · exact genuine_error (by simp)
  · exact genuine_ok ()

/-- What it takes to carry out an instruction, the device afterwards, and the data of the answer. -/
inductive Carries (device : Device S) (draw : Draw) (p2 : UInt8) (data : Bytes) :
    Instruction → Device S → Bytes → Prop
  | version : Carries device draw p2 data .getVersion device device.config.version.toBytes
  | start :
      Carries device draw p2 data .startNewTransaction (device.start p2)
        (draw.transactionId (Flow.ofCode p2))
  | setPartnerKey (hstage : device.stage = .started) (hflow : p2 = device.flow.code)
      (hregisters : Registers S device.flow data) :
      Carries device draw p2 data .setPartnerKey
        { device with stage := .partnerKeySet, credentials := data } []
  | checkPartner (hstage : device.stage = .partnerKeySet) (hflow : p2 = device.flow.code)
      (hsigned : checkSignature S device.config.root device.credentials data = .ok ()) :
      Carries device draw p2 data .checkPartner { device with stage := .partnerChecked } []
  | checkPayoutAddress (hchecked : device.checkAddress p2 data = .ok ()) :
      Carries device draw p2 data .checkPayoutAddress device []
  | checkRefundAddress (hchecked : device.checkAddress p2 data = .ok ()) :
      Carries device draw p2 data .checkRefundAddress device []
  | challenge :
      Carries device draw p2 data .getChallenge device (Challenge.toBytes ⟨device.challenge⟩)
  | trustedName (hchecked : device.checkTrustedName data = .ok ()) :
      Carries device draw p2 data .sendTrustedNameDescriptor (device.rollChallenge draw) []

/-- What a refused instruction leaves behind: the same device, but for the challenge that a refused
descriptor has used up. -/
def afterRefusal (device : Device S) (draw : Draw) : Instruction → Device S
  | .sendTrustedNameDescriptor => device.rollChallenge draw
  | _ => device

/-- An outcome of `perform`: carried out, or refused by a word other than success. -/
inductive Performs (device : Device S) (draw : Draw) (instruction : Instruction) (p2 : UInt8)
    (data : Bytes) : Device S × Reply → Prop
  | carried {next : Device S} {answer : Bytes}
      (hcarries : Carries device draw p2 data instruction next answer) :
      Performs device draw instruction p2 data (next, .accept answer)
  | refused {refusal : Refusal} (hstatus : refusal.status ≠ .success) :
      Performs device draw instruction p2 data
        (device.afterRefusal draw instruction, .refuse refusal)

/-- What moves on to another state or is refused, by an outcome that decides which. -/
theorem performs_moveOn {instruction : Instruction} {outcome : Except Refusal (Device S)}
    (hsame : device.afterRefusal draw instruction = device) (hgenuine : Genuine outcome)
    (hcarries : ∀ next, outcome = .ok next → Carries device draw p2 data instruction next []) :
    Performs device draw instruction p2 data (device.moveOn outcome) := by
  cases outcome with
  | error refusal =>
    have hrefused := @Performs.refused S device draw instruction p2 data refusal
      (hgenuine refusal rfl)
    rw [hsame] at hrefused
    exact hrefused
  | ok next => exact .carried (hcarries next rfl)

/-- What ends in the same state whether it passes a check or is refused. -/
theorem performs_verdict {instruction : Instruction} {outcome : Except Refusal Unit}
    (hgenuine : Genuine outcome)
    (hcarries : outcome = .ok () →
      Carries device draw p2 data instruction (device.afterRefusal draw instruction) []) :
    Performs device draw instruction p2 data
      (device.afterRefusal draw instruction, verdict outcome) := by
  cases outcome with
  | error refusal => exact .refused (hgenuine refusal rfl)
  | ok _ => exact .carried (hcarries rfl)

/-- Each instruction is carried out or refused, and there is nothing else that it can do. -/
theorem performs_perform (device : Device S) (draw : Draw) (instruction : Instruction)
    (p2 : UInt8) (data : Bytes) :
    Performs device draw instruction p2 data (device.perform draw instruction p2 data) := by
  cases instruction with
  | getVersion => exact .carried .version
  | startNewTransaction => exact .carried .start
  | getChallenge => exact .carried .challenge
  | setPartnerKey =>
    apply performs_moveOn rfl (genuine_setPartnerKey p2 data)
    intro next hset
    obtain ⟨⟨hstage, hflow⟩, hregisters, rfl⟩ := setPartnerKey_eq_ok_iff.1 hset
    exact .setPartnerKey hstage hflow hregisters
  | checkPartner =>
    apply performs_moveOn rfl (genuine_checkPartner p2 data)
    intro next hchecked
    obtain ⟨⟨hstage, hflow⟩, hsigned, rfl⟩ := checkPartner_eq_ok_iff.1 hchecked
    exact .checkPartner hstage hflow hsigned
  | checkPayoutAddress =>
    exact performs_verdict (genuine_checkAddress p2 data) .checkPayoutAddress
  | checkRefundAddress =>
    exact performs_verdict (genuine_checkAddress p2 data) .checkRefundAddress
  | sendTrustedNameDescriptor =>
    exact performs_verdict (genuine_checkTrustedName data) .trustedName
  | processTransactionResponse => exact .refused (by decide)
  | checkTransactionSignature => exact .refused (by decide)
  | startSigningTransaction => exact .refused (by decide)

end Device

end Countersign

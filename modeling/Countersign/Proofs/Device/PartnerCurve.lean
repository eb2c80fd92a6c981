/-
# The curve of a registered partner key

Two tables speak about the curve of a partner key: the flow has one, and credentials of the later
generation name one themselves. A device asks the flow only where the credentials do not answer, so
the curve of the flow decides in the first generation and the credentials decide in the later one.
This holds in every state that a run can reach with a key in it, because stage, flow and credentials
are then those of the command that has set the key.

The two answers need not agree: the last theorem is a run that registers a key of the later
generation off the curve of its flow.
-/

import Countersign.Proofs.Device.Authorisation

namespace Countersign

/-- A partner key is registered at this stage, whether or not the root has vouched for it. -/
def Stage.HoldsKey (stage : Stage) : Prop :=
  stage = .partnerKeySet ∨ stage = .partnerChecked

/-- The chain that a checked partner stands at the end of contains the setting of its key. -/
theorem CheckedBy.key_mem {parameter p2 : UInt8} {credentials signature : Bytes}
    {history : List Turn} (hchecked : CheckedBy parameter p2 credentials signature history) :
    some ⟨.setPartnerKey, p2, credentials⟩ ∈ history.map Turn.deed? := by
  obtain ⟨before, check, after, rfl, hset, -, -⟩ := hchecked
  rw [List.map_append]
  exact List.mem_append_left _ hset.mem

/-- The curve on which a flow takes the key in these credentials: the one that they name, in the
flows whose credentials name one, and the curve of the flow in the others. -/
inductive TakesKeyOn (flow : Flow) (credentials : Bytes) (point : Bytes) : Curve → Prop
  | ofFlow {name : String} (hlegacy : flow.isNg = false)
      (hread : Credential.read credentials = .ok (⟨name, point⟩, [])) :
      TakesKeyOn flow credentials point flow.partnerCurve
  | ofCredentials {name : String} {curve : Curve} (hng : flow.isNg = true)
      (hread : CredentialNg.read credentials = .ok (⟨name, curve, point⟩, [])) :
      TakesKeyOn flow credentials point curve

theorem takesKeyOn_of_registeredPoint? {flow : Flow} {credentials point : Bytes} {curve : Curve}
    (hfound : registeredPoint? flow credentials = some (curve, point)) :
    TakesKeyOn flow credentials point curve := by
  unfold registeredPoint? at hfound
  cases hng : flow.isNg with
  | true =>
    rw [if_pos hng, Option.map_eq_some_iff] at hfound
    obtain ⟨⟨name, _, _⟩, hwhole, hpair⟩ := hfound
    cases hpair
    exact .ofCredentials hng (decodeWhole?_eq_some_iff.1 hwhole)
  | false =>
    rw [if_neg (by simp [hng]), Option.map_eq_some_iff] at hfound
    obtain ⟨⟨name, _⟩, hwhole, hpair⟩ := hfound
    cases hpair
    exact .ofFlow hng (decodeWhole?_eq_some_iff.1 hwhole)

namespace Device

variable {S : SignatureScheme}

/-- A device whose account is in order holds a key only as the last set credentials register it. -/
theorem Accounted.registers_of_holdsKey {device : Device S} {history : List Turn}
    (hhistory : Accounted history device) (hstage : device.stage.HoldsKey) :
    Registers S device.flow device.credentials ∧
      some ⟨.setPartnerKey, device.flow.code, device.credentials⟩ ∈ history.map Turn.deed? := by
  rcases hstage with hset | hchecked
  · simp only [Accounted, hset] at hhistory
    obtain ⟨hregisters, parameter, hmove, -⟩ := hhistory
    exact ⟨hregisters, hmove.mem⟩
  · simp only [Accounted, hchecked] at hhistory
    obtain ⟨hregisters, parameter, signature, hmove, -⟩ := hhistory
    exact ⟨hregisters, hmove.key_mem⟩

/-- Whatever a device was sent since it was new, a key that it holds came with a command of its
history, and was accepted on the curve on which the flow takes it: that of the flow in the first
generation of flows, and the one that the credentials name in the later generation. So it was
accepted on the curve of the flow, unless credentials of the later generation name another one. -/
theorem partnerKey_on_curve {config : DeviceConfig S} {draw : Draw} {inputs : List (Draw × Bytes)}
    {device : Device S} {history : List Turn}
    (hrun : (new config draw).run inputs = (device, history)) (hstage : device.stage.HoldsKey) :
    some ⟨.setPartnerKey, device.flow.code, device.credentials⟩ ∈ history.map Turn.deed? ∧
      ∃ curve point, registeredPoint? device.flow device.credentials = some (curve, point) ∧
        TakesKeyOn device.flow device.credentials point curve ∧
        (S.publicKey? curve point).isSome ∧
        ((S.publicKey? device.flow.partnerCurve point).isSome ∨
          device.flow.isNg = true ∧ curve ≠ device.flow.partnerCurve) := by
  have hhistory : Accounted history device := by
    simpa only [hrun] using accounted_run_new config draw inputs
  obtain ⟨hregisters, hmem⟩ := hhistory.registers_of_holdsKey hstage
  obtain ⟨⟨curve, point⟩, key, hfound, hkey⟩ := registers_iff.1 hregisters
  have htakes := takesKeyOn_of_registeredPoint? hfound
  have haccepted : (S.publicKey? curve point).isSome := Option.isSome_iff_exists.2 ⟨key, hkey⟩
  refine ⟨hmem, curve, point, hfound, htakes, haccepted, ?_⟩
  by_cases hsame : curve = device.flow.partnerCurve
  · exact Or.inl (hsame ▸ haccepted)
  · cases htakes with
    | ofFlow _ _ => exact absurd rfl hsame
    | ofCredentials hng _ => exact Or.inr ⟨hng, hsame⟩

/-- Credentials of the later generation for the partner of the sample, with the same key and the
curve that it lies on. -/
def sampleCredentialsNg : Bytes :=
  sampleCredentials.take 2 ++ [Curve.secp256k1.code] ++ sampleCredentials.drop 2

/-- Starts a swap of the later generation and sets the key of the sample. -/
def sampleInputsNg : List (Draw × Bytes) :=
  [commandBytes .startNewTransaction Flow.swapNg.code [],
      commandBytes .setPartnerKey Flow.swapNg.code sampleCredentialsNg].map
    fun bytes => (default, bytes)

/-- The device that the sample leaves. -/
def sampleDeviceNg : Device Ecdsa.scheme :=
  ((new sampleConfig default).run sampleInputsNg).1

theorem holdsKey_sampleDeviceNg : sampleDeviceNg.stage.HoldsKey :=
  Or.inl (by decide +kernel)

theorem registeredPoint?_sampleDeviceNg :
    registeredPoint? sampleDeviceNg.flow sampleDeviceNg.credentials =
      some (.secp256k1, sampleCredentials.drop 2) := by
  decide +kernel

/-- The key of the sample is registered on the curve that its credentials name. -/
theorem partnerKey_on_curve_swapNg :
    sampleDeviceNg.stage.HoldsKey ∧
      TakesKeyOn sampleDeviceNg.flow sampleDeviceNg.credentials (sampleCredentials.drop 2)
        .secp256k1 ∧
      (Ecdsa.scheme.publicKey? .secp256k1 (sampleCredentials.drop 2)).isSome := by
  have hrun : (new sampleConfig default).run sampleInputsNg =
      (sampleDeviceNg, ((new sampleConfig default).run sampleInputsNg).2) := rfl
  obtain ⟨-, curve, point, hfound, htakes, haccepted, -⟩ :=
    partnerKey_on_curve hrun holdsKey_sampleDeviceNg
  rw [registeredPoint?_sampleDeviceNg] at hfound
  cases hfound
  exact ⟨holdsKey_sampleDeviceNg, htakes, haccepted⟩

/-- A key of the later generation need not lie on the curve of its flow: a device in test mode
holds the key of the sample, which is none on the curve of the flow. -/
theorem exists_partnerKey_off_curve_of_flow :
    ¬∀ (config : DeviceConfig Ecdsa.scheme) (draw : Draw) (inputs : List (Draw × Bytes))
      (device : Device Ecdsa.scheme) (history : List Turn),
      (new config draw).run inputs = (device, history) → device.stage.HoldsKey →
      ∃ curve point, registeredPoint? device.flow device.credentials = some (curve, point) ∧
        (Ecdsa.scheme.publicKey? device.flow.partnerCurve point).isSome := by
  intro hclaim
  obtain ⟨curve, point, hfound, haccepted⟩ :=
    hclaim sampleConfig default sampleInputsNg sampleDeviceNg _ rfl holdsKey_sampleDeviceNg
  rw [registeredPoint?_sampleDeviceNg] at hfound
  cases hfound
  have hnone : Ecdsa.scheme.publicKey? sampleDeviceNg.flow.partnerCurve
      (sampleCredentials.drop 2) = none := by decide +kernel
  rw [hnone] at haccepted
  cases haccepted

end Device

end Countersign

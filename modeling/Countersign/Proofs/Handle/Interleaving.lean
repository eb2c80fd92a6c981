/-
# What a caller can rely on when others interfere

Whatever other callers do between the exchanges of a call, its success says something about the
device: a registered partner is the very partner that the device has stored, in the flow of the
caller, and an address was checked in this flow. Nothing is promised about what the device does
next, since another caller may already have started a new transaction.

The first of these needs that nobody can pass off a signature of the root as one over other bytes.
-/

import Countersign.Proofs.Handle.Registration
import Countersign.Proofs.Handle.Sharing

namespace Countersign

/-- The key accepts a signature of the authority only for the bytes that were signed. -/
def Authority.BindsPayload {S : SignatureScheme} (authority : Authority S) (key : S.PublicKey) :
    Prop :=
  ∀ entropy payload signed,
    checkSignature S key payload (authority.sign entropy signed) = .ok () → payload = signed

theorem Flow.code_injective {first second : Flow} (hcode : first.code = second.code) :
    first = second := by
  cases first <;> cases second <;> first | rfl | exact absurd hcode (by decide)

namespace Device

variable {S : SignatureScheme} {device next : Device S} {draw : Draw} {p2 : UInt8}
  {data answer : Bytes}

theorem checkPartner_of_carries (hcarries : Carries device draw p2 data .checkPartner next answer) :
    device.stage = .partnerKeySet ∧ p2 = device.flow.code ∧
      checkSignature S device.config.root device.credentials data = .ok () ∧
      next = { device with stage := .partnerChecked } := by
  cases hcarries with
  | checkPartner hstage hflow hsigned => exact ⟨hstage, hflow, hsigned, rfl⟩

theorem checkAddress_of_carries {instruction : Instruction}
    (hcarries : Carries device draw p2 data instruction next answer)
    (hchecks : instruction = .checkPayoutAddress ∨ instruction = .checkRefundAddress) :
    device.stage = .partnerChecked ∧ p2 = device.flow.code := by
  rcases hchecks with rfl | rfl
  · cases hcarries with
    | checkPayoutAddress hchecked => exact (checkAddress_eq_ok_iff.1 hchecked).1
  · cases hcarries with
    | checkRefundAddress hchecked => exact (checkAddress_eq_ok_iff.1 hchecked).1

end Device

namespace Sharing

variable {S : SignatureScheme} {Caller : Type} [DecidableEq Caller]

/-- In every interleaving, a registration that ends well has moved the device, in the flow of the
caller, from the credentials of this partner to the partner being vouched for; and an address check
that ends well was made in the flow of the caller. -/
theorem interleaving_sound (handle : Caller → Handle) (device : Device S)
    (moves : List (Caller × Move S)) :
    ∀ event ∈ ((atRest device).run handle moves).2, event.result = some (.ok ()) →
      (∀ partner root entropy, event.call = .register partner root entropy →
        root.BindsPayload device.config.root →
        event.before.stage = .partnerKeySet ∧
          event.before.credentials = partner.credentialsFor (handle event.caller).flow ∧
          event.before.flow = (handle event.caller).flow ∧
          event.after = { event.before with stage := .partnerChecked } ∧
          ∃ turn, event.turn = some turn ∧
            (Request.checkPartner (root.sign entropy
                (partner.credentialsFor (handle event.caller).flow))).toCommand
              (handle event.caller).rate.code (handle event.caller).flow.code =
                .ok turn.command) ∧
      (∀ check, event.call = .checkPayoutAddress check ∨ event.call = .checkRefundAddress check →
        event.before.stage = .partnerChecked ∧
          event.before.flow = (handle event.caller).flow) := by
  intro event hevent hok
  obtain ⟨hconfig, hcarried⟩ := carried_of_mem_run (inOrder_atRest handle device) moves event hevent
  obtain ⟨command, draw, data, answer, hcommand, hdata, hturn, hcarries⟩ := hcarried hok
  refine ⟨?_, ?_⟩
  · intro partner root entropy hcall hbinds
    rw [hcall] at hcommand hdata hcarries
    cases hdata.symm.trans (Request.encode_of_payload rfl)
    obtain ⟨hstage, hflow, hsigned, hafter⟩ := Device.checkPartner_of_carries hcarries
    rw [hconfig] at hsigned
    exact ⟨hstage, hbinds _ _ _ hsigned, (Flow.code_injective hflow).symm, hafter, _, hturn,
      hcommand⟩
  · intro check hcall
    have hchecks : (event.call.lastRequest (handle event.caller)).instruction =
        .checkPayoutAddress ∨ (event.call.lastRequest (handle event.caller)).instruction =
        .checkRefundAddress := by
      rcases hcall with hcall | hcall
      · exact Or.inl (by rw [hcall]; rfl)
      · exact Or.inr (by rw [hcall]; rfl)
    obtain ⟨hstage, hflow⟩ := Device.checkAddress_of_carries hcarries hchecks
    exact ⟨hstage, (Flow.code_injective hflow).symm⟩

/-- A small currency configuration, with the signature of the test root over it. -/
def sampleCheck : AddressCheck where
  config := (Device.sampleCheck.drop 1).take 5
  signature := (Device.sampleCheck.drop 6).dropLast
  path := []

/-- Two payloads that the test root has signed, with its signatures. -/
def sampleSignatures : List (Bytes × Bytes) :=
  [(Device.sampleCredentials, Device.sampleSignature), (sampleCheck.config, sampleCheck.signature)]

/-- The known signature over a payload. -/
def sampleSignature? (payload : Bytes) : Option Bytes :=
  (sampleSignatures.find? fun pair => pair.1 = payload).map Prod.snd

/-- ECDSA for the two payloads of which a signature is known. Any other payload is signed by a zero
in front of it, which no other payload and no DER sequence starts with. -/
def sampleScheme : SignatureScheme :=
  { Ecdsa.scheme with
    sign := fun _ _ payload => (sampleSignature? payload).getD (0x00 :: payload)
    verify := fun key payload signature =>
      if (sampleSignature? payload).isSome then Ecdsa.verify key payload signature
      else if signature = 0x00 :: payload then .ok ()
      else .error .mismatch }

theorem mem_of_sampleSignature? {payload signature : Bytes}
    (hknown : sampleSignature? payload = some signature) :
    (payload, signature) ∈ sampleSignatures := by
  obtain ⟨pair, hpair, rfl⟩ := Option.map_eq_some_iff.1 hknown
  have hfound := List.find?_some hpair
  have hpayload : pair.1 = payload := of_decide_eq_true hfound
  rw [← hpayload]
  exact List.mem_of_find?_eq_some hpair

/-- The key of the test root. -/
def sampleKey : Ecdsa.PublicKey :=
  Device.sampleConfig.root

/-- What starts with a zero is no signature. -/
theorem verify_zero_cons (key : Ecdsa.PublicKey) (payload rest : Bytes) :
    Ecdsa.verify key payload (0x00 :: rest) = .error .malformed := by
  have hdecode : SignatureSequence.decode? (0x00 :: rest) = none := by
    cases rest <;> rfl
  rw [Ecdsa.verify, hdecode]

theorem bindsPayload_sample (root : Authority sampleScheme) : root.BindsPayload sampleKey := by
  intro entropy payload signed hsigned
  have hcross : ∀ first ∈ sampleSignatures, ∀ second ∈ sampleSignatures, first.1 ≠ second.1 →
      (Ecdsa.verify sampleKey first.1 second.2).toOption = none := by decide +kernel
  have hhead : ∀ pair ∈ sampleSignatures, pair.2.head? ≠ some 0x00 := by decide +kernel
  have hverify : sampleScheme.verify sampleKey payload
      ((sampleSignature? signed).getD (0x00 :: signed)) = .ok () := mapError_eq_ok_iff.1 hsigned
  dsimp only [sampleScheme] at hverify
  cases hpayload : sampleSignature? payload with
  | none =>
    rw [hpayload, Option.isSome_none, if_neg Bool.false_ne_true] at hverify
    cases hknown : sampleSignature? signed with
    | none =>
      rw [hknown, Option.getD_none] at hverify
      split at hverify
      · next hsame => exact (List.cons.inj hsame).2.symm
      · cases hverify
    | some signature =>
      rw [hknown, Option.getD_some] at hverify
      split at hverify
      · next hsame =>
        exact absurd (congrArg List.head? hsame) (hhead _ (mem_of_sampleSignature? hknown))
      · cases hverify
  | some expected =>
    rw [hpayload, Option.isSome_some, if_pos rfl] at hverify
    cases hknown : sampleSignature? signed with
    | none =>
      rw [hknown, Option.getD_none, verify_zero_cons] at hverify
      cases hverify
    | some signature =>
      rw [hknown, Option.getD_some] at hverify
      have hnone := hcross _ (mem_of_sampleSignature? hpayload) _ (mem_of_sampleSignature? hknown)
      rw [hverify] at hnone
      by_cases hsame : payload = signed
      · exact hsame
      · cases hnone hsame

/-- The test root. -/
def sampleRoot : Authority sampleScheme where
  name := rootName
  secretKey := Conversation.sampleRoot.secretKey
  publicKey := sampleKey
  credentials := []
  credentialsNg := []

/-- A partner with credentials that the root has signed. -/
def samplePartner : Authority sampleScheme where
  name := "p"
  secretKey := (⟨.secp256k1, 1⟩ : Ecdsa.SecretKey)
  publicKey := (⟨.secp256k1, 1⟩ : Ecdsa.SecretKey).publicKey
  credentials := Device.sampleCredentials
  credentialsNg := []

/-- A device that trusts the root. -/
def sampleDevice : Device sampleScheme :=
  .new { version := ⟨4, 0, 0⟩, root := sampleKey } default

/-- An exchange that goes well. -/
def sampleExchange : Move sampleScheme :=
  .exchange (.answered default)

/-- One caller registers a partner. Between its two exchanges another one starts the transaction
anew, and sets the same partner. In the end the other one has an address checked. -/
def sampleMoves : List (Bool × Move sampleScheme) :=
  [(false, .call .startTransaction), (false, sampleExchange),
    (false, .call (.register samplePartner sampleRoot [])), (false, sampleExchange),
    (true, .call .startTransaction), (true, sampleExchange),
    (true, .call (.setPartnerKey Device.sampleCredentials)), (true, sampleExchange),
    (false, sampleExchange), (true, .call (.checkPayoutAddress sampleCheck)),
    (true, sampleExchange)]

/-- Handles for a swap, with a rate of their own. -/
def sampleHandles (caller : Bool) : Handle :=
  Handle.withFlow {} (if caller then .floating else .fixed) .swap

/-- What happens then. -/
def sampleEvents : List (Event sampleScheme Bool) :=
  ((atRest sampleDevice).run sampleHandles sampleMoves).2

/-- Whether a call of this kind has ended well. -/
def endsWell (kind : Call sampleScheme → Bool) (event : Event sampleScheme Bool) : Bool :=
  match event.result with
  | some (.ok ()) => kind event.call
  | _ => false

theorem result_of_endsWell {kind : Call sampleScheme → Bool} {event : Event sampleScheme Bool}
    (hends : endsWell kind event = true) :
    event.result = some (.ok ()) ∧ kind event.call = true := by
  unfold endsWell at hends
  split at hends
  · next hresult => exact ⟨hresult, hends⟩
  · cases hends

/-- Whether a call is a registration. -/
def isRegistration : Call sampleScheme → Bool
  | .register _ _ _ => true
  | _ => false

/-- Whether a call is the check of a payout address. -/
def isPayoutCheck : Call sampleScheme → Bool
  | .checkPayoutAddress _ => true
  | _ => false

/-- The registration ends well although the credentials that it had sent were thrown away, since the
other caller has sent the same ones. The address check of the other caller ends well, too. -/
theorem interleaving_sound_sample :
    (∃ event ∈ sampleEvents, ∃ partner root entropy, event.call = .register partner root entropy ∧
      event.result = some (.ok ()) ∧ event.before.stage = .partnerKeySet ∧
      event.before.credentials = partner.credentialsFor (sampleHandles event.caller).flow ∧
      event.after.stage = .partnerChecked) ∧
    (∃ event ∈ sampleEvents, ∃ check, event.call = .checkPayoutAddress check ∧
      event.result = some (.ok ()) ∧ event.before.flow = (sampleHandles event.caller).flow) := by
  have hregistered : sampleEvents.any (endsWell isRegistration) = true := by decide +kernel
  have hchecked : sampleEvents.any (endsWell isPayoutCheck) = true := by decide +kernel
  refine ⟨?_, ?_⟩
  · obtain ⟨event, hevent, hends⟩ := List.any_eq_true.1 hregistered
    obtain ⟨hok, hkind⟩ := result_of_endsWell hends
    have hsound := (interleaving_sound sampleHandles sampleDevice sampleMoves event hevent hok).1
    cases hcall : event.call with
    | register partner root entropy =>
      obtain ⟨hstage, hcredentials, -, hafter, -⟩ :=
        hsound partner root entropy hcall (bindsPayload_sample root)
      refine ⟨event, hevent, partner, root, entropy, hcall, hok, hstage, hcredentials, ?_⟩
      rw [hafter]
    | _ =>
      rw [hcall] at hkind
      cases hkind
  · obtain ⟨event, hevent, hends⟩ := List.any_eq_true.1 hchecked
    obtain ⟨hok, hkind⟩ := result_of_endsWell hends
    have hsound := (interleaving_sound sampleHandles sampleDevice sampleMoves event hevent hok).2
    cases hcall : event.call with
    | checkPayoutAddress check =>
      exact ⟨event, hevent, check, hcall, hok, (hsound check (Or.inl hcall)).2⟩
    | _ =>
      rw [hcall] at hkind
      cases hkind

end Sharing

end Countersign

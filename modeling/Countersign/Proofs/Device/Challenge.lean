/-
# Challenges are used once

A device keeps one challenge and checks the next descriptor against it. Whatever comes of the
descriptor, a new challenge is drawn, and nothing else draws one. So the challenge in any state is
found by counting the descriptors that were handed over before, and a descriptor that was accepted
is accepted again only if the same challenge is drawn again. How likely this is, is not said here.
-/

import Countersign.Proofs.Command.Wire
import Countersign.Proofs.Device.Authorisation
import Countersign.Proofs.TrustedName.Grammar
import Countersign.TrustedName.Descriptor

namespace Countersign

/-- The descriptor in a byte string that is a command to check it. -/
def descriptorIn? (bytes : Bytes) : Option Bytes :=
  Instruction.sendTrustedNameDescriptor.dataIn? bytes

/-- How many descriptors a device is handed in a run, good or not. -/
def attempts (inputs : List (Draw × Bytes)) : Nat :=
  inputs.countP fun input => (descriptorIn? input.2).isSome

/-- The challenges that are drawn in a run: one for the new device, and one for each descriptor. -/
def drawn (first : Draw) (inputs : List (Draw × Bytes)) : List UInt32 :=
  first.challenge ::
    (inputs.filter fun input => (descriptorIn? input.2).isSome).map fun input => input.1.challenge

theorem length_drawn (first : Draw) (inputs : List (Draw × Bytes)) :
    (drawn first inputs).length = attempts inputs + 1 := by
  rw [drawn, List.length_cons, List.length_map, attempts, List.countP_eq_length_filter]

/-- What is drawn later does not change what was drawn before. -/
theorem getElem?_drawn_append (first : Draw) (earlier later : List (Draw × Bytes)) :
    (drawn first (earlier ++ later))[attempts earlier]? =
      (drawn first earlier)[attempts earlier]? := by
  have hfront : drawn first (earlier ++ later) =
      drawn first earlier ++ (drawn first later).tail := by
    simp only [drawn, List.filter_append, List.map_append, List.cons_append, List.tail_cons]
  rw [hfront, List.getElem?_append_left]
  rw [length_drawn]
  exact Nat.lt_succ_self _

/-- The challenge is in a record that the signature covers, and it is the last one there. -/
def TrustedNameInfo.SignsChallenge (info : TrustedNameInfo) (challenge : UInt32) : Prop :=
  ∃ records : List Tlv, info.signed = records.flatMap Tlv.form ∧
    FieldTag.lastNumber .challenge records = some challenge.toNat

/-- What a descriptor says about its challenge stands in its signed part. -/
theorem TrustedNameInfo.signsChallenge_of_parse {bytes : Bytes} {info : TrustedNameInfo}
    (hparse : parse bytes = .ok info) {challenge : UInt32}
    (hchallenge : info.challenge = some challenge) : info.SignsChallenge challenge := by
  obtain ⟨records, -, hdescribes, hsigned, -, -⟩ := exists_records_of_parse hparse
  refine ⟨records, hsigned, ?_⟩
  rw [hdescribes.challenge, hchallenge, Option.map_some]

/-- What a device asks of the fields of a descriptor. -/
theorem TrustedNameInfo.checkFields_eq_ok_iff {info : TrustedNameInfo} {challenge : UInt32} :
    info.checkFields challenge = .ok () ↔
      info.version = trustedNameVersion ∧ info.nameType = TrustedNameType.contextAddress.code ∧
        info.nameSource = TrustedNameSource.dynamicResolver.code ∧
        (info.trustedName.length ≤ maxTrustedNameLength ∧
          info.address.length ≤ maxTrustedNameLength) ∧
        info.challenge = some challenge ∧ info.keyId = SignerKeyId.test.code ∧
        info.algo = signerAlgoEcdsaSha256 := by
  simp only [checkFields, refuse_else_eq_ok_iff, ne_eq, Classical.not_not, not_or, Nat.not_lt,
    and_true]

/-- A descriptor is good if it can be read, its fields are as the device wants them, and the root
has signed it. -/
theorem TrustedNameInfo.checkDescriptor_eq_ok_iff {S : SignatureScheme} {root : S.PublicKey}
    {challenge : UInt32} {descriptor : Bytes} :
    checkDescriptor S root challenge descriptor = .ok () ↔
      ∃ info, parse descriptor = .ok info ∧ info.checkFields challenge = .ok () ∧
        checkSignature S root info.signed info.signature = .ok () := by
  simp only [checkDescriptor, bind_eq_ok_iff, mapError_eq_ok_iff]
  constructor
  · rintro ⟨info, hparse, _, hfields, hsigned⟩
    exact ⟨info, hparse, hfields, hsigned⟩
  · rintro ⟨info, hparse, hfields, hsigned⟩
    exact ⟨info, hparse, (), hfields, hsigned⟩

namespace Device

variable {S : SignatureScheme}

/-- The device that a run leaves, from the moment it was new. -/
def reached (config : DeviceConfig S) (first : Draw) (inputs : List (Draw × Bytes)) : Device S :=
  ((new config first).run inputs).1

/-- A descriptor that is handed over uses up the challenge, and nothing else does. -/
theorem challenge_handle (device : Device S) (draw : Draw) (bytes : Bytes) :
    (device.handle draw bytes).1.challenge =
      if (descriptorIn? bytes).isSome then nextChallenge device.config draw
      else device.challenge := by
  cases hread : readCommand bytes with
  | error refusal =>
    have hnone : descriptorIn? bytes = none := Instruction.dataIn?_eq_none hread
    simp only [handle, hread, hnone, Option.isSome_none, Bool.false_eq_true, if_false]
  | ok found =>
    obtain ⟨instruction, command⟩ := found
    have hsome : (descriptorIn? bytes).isSome ↔ instruction = .sendTrustedNameDescriptor :=
      Instruction.isSome_dataIn?_iff hread
    have hhandle : device.handle draw bytes =
        device.perform draw instruction command.p2 command.data := by
      simp only [handle, hread]
    have hperforms := performs_perform device draw instruction command.p2 command.data
    rw [hhandle]
    simp only [hsome]
    generalize device.perform draw instruction command.p2 command.data = outcome at hperforms
    cases hperforms with
    | carried hcarries => cases hcarries <;> rfl
    | refused _ => cases instruction <;> rfl

/-- A descriptor is checked against the challenge of the device. -/
theorem status_handle_eq_success_iff (device : Device S) (draw : Draw) {bytes descriptor : Bytes}
    (hdescriptor : descriptorIn? bytes = some descriptor) :
    (device.handle draw bytes).2.status = .success ↔
      TrustedNameInfo.checkDescriptor S device.config.root device.challenge descriptor =
        .ok () := by
  obtain ⟨command, hread, rfl⟩ := Instruction.dataIn?_eq_some_iff.1 hdescriptor
  simp only [handle, hread, perform, checkTrustedName]
  cases TrustedNameInfo.checkDescriptor S device.config.root device.challenge command.data with
  | error cause => simp [verdict, Reply.refuse]
  | ok _ => simp [verdict, Reply.accept]

/-- Whoever asks for the challenge is told the one that the device has kept. -/
theorem reply_getChallenge (device : Device S) (draw : Draw) {bytes data : Bytes}
    (hask : Instruction.getChallenge.dataIn? bytes = some data) :
    (device.handle draw bytes).2 = .accept (BigEndian.fixed 4 device.challenge.toNat) := by
  obtain ⟨command, hread, -⟩ := Instruction.dataIn?_eq_some_iff.1 hask
  simp only [handle, hread, perform, Challenge.toBytes]

theorem descriptorIn?_of_getChallenge {bytes data : Bytes}
    (hask : Instruction.getChallenge.dataIn? bytes = some data) : descriptorIn? bytes = none := by
  obtain ⟨command, hread, -⟩ := Instruction.dataIn?_eq_some_iff.1 hask
  rw [← Option.not_isSome_iff_eq_none, descriptorIn?, Instruction.isSome_dataIn?_iff hread]
  decide

/-- As long as nobody hands over a descriptor, the challenge stays. -/
theorem challenge_run_of_none (device : Device S) {inputs : List (Draw × Bytes)}
    (hnone : ∀ input ∈ inputs, descriptorIn? input.2 = none) :
    (device.run inputs).1.challenge = device.challenge := by
  induction inputs generalizing device with
  | nil => rfl
  | cons input inputs ih =>
    obtain ⟨draw, bytes⟩ := input
    have hfirst : descriptorIn? bytes = none := hnone _ List.mem_cons_self
    have hrest := ih (device.handle draw bytes).1
      fun later hlater => hnone later (List.mem_cons_of_mem _ hlater)
    rw [challenge_handle, hfirst] at hrest
    exact hrest

/-- The challenge in a state is the one that was drawn after the last descriptor before it. -/
theorem getElem?_drawn_run {device : Device S} (hfree : device.config.fixedChallenge = none)
    {first : Draw} (hfirst : first.challenge = device.challenge) (inputs : List (Draw × Bytes)) :
    (drawn first inputs)[attempts inputs]? = some (device.run inputs).1.challenge := by
  induction inputs generalizing device first with
  | nil => exact congrArg some hfirst
  | cons input inputs ih =>
    obtain ⟨draw, bytes⟩ := input
    have hnext := challenge_handle device draw bytes
    have hconfig : (device.handle draw bytes).1.config.fixedChallenge = none := by
      rw [config_eq_of_handles (handles_handle device draw bytes), hfree]
    cases hdescriptor : descriptorIn? bytes with
    | none =>
      rw [hdescriptor] at hnext
      have hrest := ih hconfig (hfirst.trans hnext.symm)
      simpa [drawn, attempts, run, hdescriptor, List.filter_cons, List.countP_cons] using hrest
    | some descriptor =>
      rw [hdescriptor] at hnext
      have hdraw : draw.challenge = (device.handle draw bytes).1.challenge := by
        rw [hnext, Option.isSome_some, if_pos rfl, nextChallenge, hfree]
        rfl
      have hrest := ih hconfig hdraw
      simpa [drawn, attempts, run, hdescriptor, List.filter_cons, List.countP_cons] using hrest

/-- A device with a fixed challenge never has another one. -/
theorem challenge_run_of_fixed {device : Device S} {fixed : UInt32}
    (hfixed : device.config.fixedChallenge = some fixed) (hkept : device.challenge = fixed)
    (inputs : List (Draw × Bytes)) : (device.run inputs).1.challenge = fixed := by
  induction inputs generalizing device with
  | nil => exact hkept
  | cons input inputs ih =>
    obtain ⟨draw, bytes⟩ := input
    have hconfig : (device.handle draw bytes).1.config.fixedChallenge = some fixed := by
      rw [config_eq_of_handles (handles_handle device draw bytes), hfixed]
    have hnext : (device.handle draw bytes).1.challenge = fixed := by
      rw [challenge_handle, nextChallenge, hfixed, hkept]
      exact ite_self _
    exact ih hconfig hnext

/-- In a run, the attempt with this number hands over this descriptor, and is answered with
success. -/
def AcceptedAt (config : DeviceConfig S) (first : Draw) (inputs : List (Draw × Bytes))
    (number : Nat) (descriptor : Bytes) : Prop :=
  ∃ earlier draw bytes later, inputs = earlier ++ (draw, bytes) :: later ∧
    attempts earlier = number ∧ descriptorIn? bytes = some descriptor ∧
    ((reached config first earlier).handle draw bytes).2.status = .success

theorem config_reached (config : DeviceConfig S) (first : Draw) (inputs : List (Draw × Bytes)) :
    (reached config first inputs).config = config :=
  config_run (new config first) inputs

theorem reached_append (config : DeviceConfig S) (first : Draw)
    (earlier later : List (Draw × Bytes)) :
    reached config first (earlier ++ later) = ((reached config first earlier).run later).1 := by
  rw [reached, run_append]
  rfl

/-- In every state that a run reaches, the challenge is the one that was drawn last. -/
theorem getElem?_drawn_reached {config : DeviceConfig S} (hfree : config.fixedChallenge = none)
    (first : Draw) (earlier later : List (Draw × Bytes)) :
    (drawn first (earlier ++ later))[attempts earlier]? =
      some (reached config first earlier).challenge := by
  have hfirst : first.challenge = (new config first).challenge := by
    rw [new, nextChallenge, hfree]
    rfl
  rw [getElem?_drawn_append]
  exact getElem?_drawn_run hfree hfirst earlier

/-- An accepted descriptor contains, in its signed part, the challenge that was drawn last. -/
theorem AcceptedAt.exists_info {config : DeviceConfig S} (hfree : config.fixedChallenge = none)
    {first : Draw} {inputs : List (Draw × Bytes)} {number : Nat} {descriptor : Bytes}
    (haccepted : AcceptedAt config first inputs number descriptor) :
    ∃ info challenge, TrustedNameInfo.parse descriptor = .ok info ∧
      info.challenge = some challenge ∧ info.SignsChallenge challenge ∧
      (drawn first inputs)[number]? = some challenge := by
  obtain ⟨earlier, draw, bytes, later, rfl, rfl, hdescriptor, hsuccess⟩ := haccepted
  have hchecked := (status_handle_eq_success_iff _ draw hdescriptor).1 hsuccess
  obtain ⟨info, hparse, hfields, -⟩ := TrustedNameInfo.checkDescriptor_eq_ok_iff.1 hchecked
  obtain ⟨-, -, -, -, hchallenge, -, -⟩ := TrustedNameInfo.checkFields_eq_ok_iff.1 hfields
  exact ⟨info, _, hparse, hchallenge, TrustedNameInfo.signsChallenge_of_parse hparse hchallenge,
    getElem?_drawn_reached hfree first earlier _⟩

/-- A challenge is used once. In every state of a run the challenge is the one drawn after the last
descriptor; whoever asks for it is told the one that the next descriptor is checked against; and an
accepted descriptor has signed the challenge of its own attempt, so that no other attempt accepts
the same challenge unless it was drawn again. A device with a fixed challenge draws none. -/
theorem challenge_used_once (config : DeviceConfig S) (first : Draw) :
    (∀ fixed, config.fixedChallenge = some fixed →
      ∀ inputs, (reached config first inputs).challenge = fixed) ∧
    (∀ earlier draw ask asked between, Instruction.getChallenge.dataIn? ask = some asked →
      (∀ input ∈ between, descriptorIn? input.2 = none) →
      ∃ challenge,
        ((reached config first earlier).handle draw ask).2 =
          .accept (BigEndian.fixed 4 challenge.toNat) ∧
        ∀ draw' bytes descriptor, descriptorIn? bytes = some descriptor →
          (((reached config first (earlier ++ (draw, ask) :: between)).handle draw'
              bytes).2.status = .success ↔
            TrustedNameInfo.checkDescriptor S config.root challenge descriptor = .ok ())) ∧
    (config.fixedChallenge = none → ∀ inputs,
      (∀ earlier later, inputs = earlier ++ later →
        (drawn first inputs)[attempts earlier]? = some (reached config first earlier).challenge) ∧
      (∀ earlier draw bytes, descriptorIn? bytes = none →
        (reached config first (earlier ++ [(draw, bytes)])).challenge =
          (reached config first earlier).challenge) ∧
      (∀ number descriptor, AcceptedAt config first inputs number descriptor →
        ∃ info challenge, TrustedNameInfo.parse descriptor = .ok info ∧
          info.challenge = some challenge ∧ info.SignsChallenge challenge ∧
          (drawn first inputs)[number]? = some challenge) ∧
      (∀ number number' descriptor descriptor' info info',
        AcceptedAt config first inputs number descriptor →
        AcceptedAt config first inputs number' descriptor' →
        TrustedNameInfo.parse descriptor = .ok info →
        TrustedNameInfo.parse descriptor' = .ok info' → info.challenge = info'.challenge →
        (drawn first inputs)[number]? = (drawn first inputs)[number']?)) := by
  refine ⟨?_, ?_, ?_⟩
  · intro fixed hfixed inputs
    have hkept : (new config first).challenge = fixed := by
      rw [new, nextChallenge, hfixed]
      rfl
    exact challenge_run_of_fixed hfixed hkept inputs
  · intro earlier draw ask asked between hask hbetween
    refine ⟨_, reply_getChallenge _ draw hask, ?_⟩
    intro draw' bytes descriptor hdescriptor
    have hnone : ∀ input ∈ (draw, ask) :: between, descriptorIn? input.2 = none :=
      List.forall_mem_cons.2 ⟨descriptorIn?_of_getChallenge hask, hbetween⟩
    rw [status_handle_eq_success_iff _ _ hdescriptor, config_reached, reached_append,
      challenge_run_of_none _ hnone]
  · intro hfree inputs
    refine ⟨?_, ?_, ?_, ?_⟩
    · rintro earlier later rfl
      exact getElem?_drawn_reached hfree first earlier later
    · intro earlier draw bytes hnone
      rw [reached_append]
      exact challenge_run_of_none _ (List.forall_mem_singleton.2 hnone)
    · intro number descriptor haccepted
      exact haccepted.exists_info hfree
    · intro number number' descriptor descriptor' info info' haccepted haccepted' hparse hparse'
        hsame
      obtain ⟨found, challenge, hfound, hchallenge, -, hdrawn⟩ := haccepted.exists_info hfree
      obtain ⟨found', challenge', hfound', hchallenge', -, hdrawn'⟩ := haccepted'.exists_info hfree
      rw [hparse] at hfound
      rw [hparse'] at hfound'
      cases hfound
      cases hfound'
      rw [hdrawn, hdrawn', ← hchallenge, ← hchallenge', hsame]

/-- A descriptor for a name of one letter, with the challenge seven, signed by the test root. -/
def sampleDescriptor : Bytes :=
  (TrustedNameDescriptor.standard [0x6e] [0x61] 1 7).signedPayload ++
    Tlv.ofField .derSignature (.bytes
      (SignatureSequence.encode 0x69107b49056317df723abc042a27a0236e11bc5ef355f89b3f660a516962f663
        0x36b1bdfbc08cbbb6585e7a51dbb319156e6c0b6fd22fe2a79752edf39281cf37))

/-- A draw with this challenge. -/
def sampleDraw (challenge : UInt32) : Draw :=
  { (default : Draw) with challenge }

/-- A command that hands over this descriptor. -/
def sampleHandover : Bytes :=
  commandBytes .sendTrustedNameDescriptor 0 sampleDescriptor

/-- A command that asks for the challenge. -/
def sampleAsk : Bytes :=
  commandBytes .getChallenge 0 []

/-- The challenge is asked for, and then the descriptor is handed over twice. -/
def sampleReplay : List (Draw × Bytes) :=
  [(sampleDraw 0, sampleAsk), (sampleDraw 8, sampleHandover), (sampleDraw 9, sampleHandover)]

/-- A device in test mode that draws its challenges. -/
def sampleDrawing : DeviceConfig Ecdsa.scheme :=
  { sampleConfig with fixedChallenge := none }

/-- The device tells the challenge that the descriptor contains, and accepts the descriptor. The
second time another challenge was drawn, so the same descriptor is refused. -/
theorem challenge_used_once_replay :
    (∃ challenge,
      ((reached sampleDrawing (sampleDraw 7) []).handle (sampleDraw 0) sampleAsk).2 =
          .accept (BigEndian.fixed 4 challenge.toNat) ∧
        TrustedNameInfo.checkDescriptor Ecdsa.scheme sampleDrawing.root challenge
          sampleDescriptor = .ok ()) ∧
      AcceptedAt sampleDrawing (sampleDraw 7) sampleReplay 0 sampleDescriptor ∧
      ¬AcceptedAt sampleDrawing (sampleDraw 7) sampleReplay 1 sampleDescriptor ∧
      (reached sampleConfig (sampleDraw 7) sampleReplay).challenge = 1 := by
  obtain ⟨-, htold, hfree⟩ := challenge_used_once sampleDrawing (sampleDraw 7)
  obtain ⟨-, -, hsigned, hreplayed⟩ := hfree rfl sampleReplay
  have hdescriptor : descriptorIn? sampleHandover = some sampleDescriptor := by decide +kernel
  have hsuccess : ((reached sampleDrawing (sampleDraw 7) [(sampleDraw 0, sampleAsk)]).handle
      (sampleDraw 8) sampleHandover).2.status = .success := by decide +kernel
  have haccepted : AcceptedAt sampleDrawing (sampleDraw 7) sampleReplay 0 sampleDescriptor :=
    ⟨[(sampleDraw 0, sampleAsk)], sampleDraw 8, sampleHandover,
      [(sampleDraw 9, sampleHandover)], rfl, by decide +kernel, hdescriptor, hsuccess⟩
  refine ⟨?_, haccepted, ?_, ?_⟩
  · obtain ⟨challenge, hreply, hchecks⟩ :=
      htold [] (sampleDraw 0) sampleAsk [] [] (by decide +kernel) (by simp)
    rw [List.nil_append] at hchecks
    exact ⟨challenge, hreply, (hchecks _ _ _ hdescriptor).1 hsuccess⟩
  · intro hagain
    obtain ⟨info, challenge, hparse, -, -, -⟩ := hsigned 0 sampleDescriptor haccepted
    have hsame := hreplayed 0 1 _ _ info info haccepted hagain hparse hparse rfl
    exact absurd hsame (by decide +kernel)
  · exact (challenge_used_once sampleConfig (sampleDraw 7)).1 1 rfl sampleReplay

end Device

end Countersign

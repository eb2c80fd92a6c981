/-
# What a command leaves as it was

A command that is refused gives no data away and moves nothing: the transaction stands where it
stood, however far the command got before it was refused. Only the challenge is used up by a
descriptor, good or bad. A command that is carried out changes the fields that its instruction is
for, and no others.

Nothing is asked of the device here. It need not be one that a run can reach.
-/

import Countersign.Proofs.Device.Challenge

namespace Countersign

/-- The byte string is, as a whole, a command with this instruction. -/
def Instruction.IsIn (instruction : Instruction) (bytes : Bytes) : Prop :=
  (instruction.dataIn? bytes).isSome

instance (instruction : Instruction) (bytes : Bytes) : Decidable (instruction.IsIn bytes) :=
  inferInstanceAs (Decidable ((instruction.dataIn? bytes).isSome = true))

namespace Device

variable {S : SignatureScheme} {device next later : Device S} {draw : Draw} {bytes : Bytes}

/-- The second device is as far in the same transaction as the first one. Only its challenge may be
another one. -/
structure SameTransaction (device next : Device S) : Prop where
  config : next.config = device.config
  stage : next.stage = device.stage
  flow : next.flow = device.flow
  credentials : next.credentials = device.credentials

/-- The device after a command that was carried out differs from the device before it only in what
the instruction of the command is for. -/
structure Confined (bytes : Bytes) (device next : Device S) : Prop where
  config : next.config = device.config
  flow : ¬Instruction.startNewTransaction.IsIn bytes → next.flow = device.flow
  credentials : ¬Instruction.startNewTransaction.IsIn bytes →
    ¬Instruction.setPartnerKey.IsIn bytes → next.credentials = device.credentials
  /-- A start leads from any stage to the first one. -/
  start : Instruction.startNewTransaction.IsIn bytes → next.stage = .started
  setPartnerKey : Instruction.setPartnerKey.IsIn bytes →
    device.stage = .started ∧ next.stage = .partnerKeySet
  checkPartner : Instruction.checkPartner.IsIn bytes →
    device.stage = .partnerKeySet ∧ next.stage = .partnerChecked
  stage : ¬Instruction.startNewTransaction.IsIn bytes → ¬Instruction.setPartnerKey.IsIn bytes →
    ¬Instruction.checkPartner.IsIn bytes → next.stage = device.stage
  challenge : ¬Instruction.sendTrustedNameDescriptor.IsIn bytes →
    next.challenge = device.challenge

theorem SameTransaction.refl (device : Device S) : SameTransaction device device :=
  ⟨rfl, rfl, rfl, rfl⟩

theorem SameTransaction.trans (hfirst : SameTransaction device next)
    (hsecond : SameTransaction next later) : SameTransaction device later where
  config := hsecond.config.trans hfirst.config
  stage := hsecond.stage.trans hfirst.stage
  flow := hsecond.flow.trans hfirst.flow
  credentials := hsecond.credentials.trans hfirst.credentials

/-- A device is known by its transaction and its challenge. -/
theorem SameTransaction.eq_of_challenge (hsame : SameTransaction device next)
    (hchallenge : next.challenge = device.challenge) : next = device := by
  obtain ⟨hconfig, hstage, hflow, hcredentials⟩ := hsame
  cases device
  cases next
  simp only at hconfig hstage hflow hcredentials hchallenge
  subst hconfig hstage hflow hcredentials hchallenge
  rfl

theorem sameTransaction_afterRefusal (device : Device S) (draw : Draw)
    (instruction : Instruction) :
    SameTransaction device (device.afterRefusal draw instruction) := by
  cases instruction with
  | sendTrustedNameDescriptor => exact ⟨rfl, rfl, rfl, rfl⟩
  | _ => exact .refl device

/-- Carrying out an instruction changes what the instruction is for. -/
theorem confined_of_carries {instruction : Instruction} {command : Command} {p2 : UInt8}
    {data answer : Bytes} (hread : readCommand bytes = .ok (instruction, command))
    (hcarries : Carries device draw p2 data instruction next answer) :
    Confined bytes device next := by
  have hin (other : Instruction) : other.IsIn bytes ↔ instruction = other :=
    Instruction.isSome_dataIn?_iff hread
  cases hcarries with
  | version | challenge => constructor <;> simp [hin]
  | start => constructor <;> simp [hin, Device.start]
  | setPartnerKey hstage _ _ => constructor <;> simp [hin, hstage]
  | checkPartner hstage _ _ => constructor <;> simp [hin, hstage]
  | checkPayoutAddress _ | checkRefundAddress _ => constructor <;> simp [hin]
  | trustedName _ => constructor <;> simp [hin, rollChallenge]

/-- What a device answers and what it is afterwards, by whether it has refused. -/
theorem handle_cases (device : Device S) (draw : Draw) (bytes : Bytes) :
    ((device.handle draw bytes).2.status = .success ∧
        Confined bytes device (device.handle draw bytes).1) ∨
      ((device.handle draw bytes).2.status ≠ .success ∧ (device.handle draw bytes).2.data = [] ∧
        SameTransaction device (device.handle draw bytes).1) := by
  cases hread : readCommand bytes with
  | error refusal =>
    have hhandle : device.handle draw bytes = (device, .refuse refusal) := by
      simp only [handle, hread]
    rw [hhandle]
    exact Or.inr ⟨genuine_readCommand bytes refusal hread, rfl, .refl device⟩
  | ok found =>
    obtain ⟨instruction, command⟩ := found
    have hhandle : device.handle draw bytes =
        device.perform draw instruction command.p2 command.data := by
      simp only [handle, hread]
    have hperforms := performs_perform device draw instruction command.p2 command.data
    rw [hhandle]
    generalize device.perform draw instruction command.p2 command.data = outcome at hperforms
    cases hperforms with
    | carried hcarries => exact Or.inl ⟨rfl, confined_of_carries hread hcarries⟩
    | refused hstatus =>
      exact Or.inr ⟨hstatus, rfl, sameTransaction_afterRefusal device draw instruction⟩

theorem sameTransaction_of_refused
    (hrefused : (device.handle draw bytes).2.status ≠ .success) :
    (device.handle draw bytes).2.data = [] ∧
      SameTransaction device (device.handle draw bytes).1 := by
  rcases handle_cases device draw bytes with ⟨hsuccess, -⟩ | ⟨-, hempty, hsame⟩
  · exact absurd hsuccess hrefused
  · exact ⟨hempty, hsame⟩

theorem confined_of_success (hsuccess : (device.handle draw bytes).2.status = .success) :
    Confined bytes device (device.handle draw bytes).1 := by
  rcases handle_cases device draw bytes with ⟨-, hconfined⟩ | ⟨hrefused, -, -⟩
  · exact hconfined
  · exact absurd hsuccess hrefused

theorem challenge_of_not_descriptor
    (hother : ¬Instruction.sendTrustedNameDescriptor.IsIn bytes) :
    (device.handle draw bytes).1.challenge = device.challenge := by
  rw [challenge_handle, if_neg]
  exact hother

/-- As long as a device refuses everything, the transaction stays where it is. -/
theorem sameTransaction_run_of_refused {inputs : List (Draw × Bytes)}
    (hrefused : ∀ turn ∈ (device.run inputs).2, turn.reply.status ≠ .success) :
    SameTransaction device (device.run inputs).1 := by
  induction inputs generalizing device with
  | nil => exact .refl device
  | cons input inputs ih =>
    obtain ⟨draw, bytes⟩ := input
    have hfirst : (device.handle draw bytes).2.status ≠ .success :=
      hrefused _ List.mem_cons_self
    have hrest := ih fun turn hturn => hrefused turn (List.mem_cons_of_mem _ hturn)
    exact (sameTransaction_of_refused hfirst).2.trans hrest

/-- A refused command answers no data and leaves the device as it was, but for the challenge that a
descriptor has used up; and a command that is carried out changes only what its instruction is for.
So a device that refuses all of a run, in which nobody hands over a descriptor, is the same device
after the run. -/
theorem refused_changes_nothing (device : Device S) :
    (∀ draw bytes, (device.handle draw bytes).2.status ≠ .success →
      (device.handle draw bytes).2.data = [] ∧
        SameTransaction device (device.handle draw bytes).1 ∧
        (¬Instruction.sendTrustedNameDescriptor.IsIn bytes →
          (device.handle draw bytes).1 = device)) ∧
    (∀ draw bytes, (device.handle draw bytes).2.status = .success →
      Confined bytes device (device.handle draw bytes).1) ∧
    (∀ inputs, (∀ turn ∈ (device.run inputs).2, turn.reply.status ≠ .success) →
      SameTransaction device (device.run inputs).1 ∧
        ((∀ input ∈ inputs, ¬Instruction.sendTrustedNameDescriptor.IsIn input.2) →
          (device.run inputs).1 = device)) := by
  refine ⟨?_, ?_, ?_⟩
  · intro draw bytes hrefused
    obtain ⟨hempty, hsame⟩ := sameTransaction_of_refused hrefused
    refine ⟨hempty, hsame, fun hother => ?_⟩
    exact hsame.eq_of_challenge (challenge_of_not_descriptor hother)
  · intro draw bytes hsuccess
    exact confined_of_success hsuccess
  · intro inputs hrefused
    have hsame := sameTransaction_run_of_refused hrefused
    refine ⟨hsame, fun hother => hsame.eq_of_challenge ?_⟩
    apply challenge_run_of_none
    intro input hinput
    exact Option.not_isSome_iff_eq_none.1 (hother input hinput)

/-- A device that waits for somebody to vouch for its partner. -/
def sampleWaiting : Device Ecdsa.scheme where
  config := sampleConfig
  stage := .partnerKeySet
  flow := .swap
  credentials := sampleCredentials
  challenge := 1

/-- Bytes that are no signature do not vouch for the partner, and the device goes on waiting, also
after a whole run of them. A start gives up the partner. -/
theorem refused_changes_nothing_waiting :
    ((sampleWaiting.handle default (commandBytes .checkPartner 0 [])).2.status =
        .signVerificationFail ∧
      (sampleWaiting.handle default (commandBytes .checkPartner 0 [])).1 = sampleWaiting) ∧
    ((sampleWaiting.handle default (commandBytes .startNewTransaction 1 [])).2.status = .success ∧
      Confined (commandBytes .startNewTransaction 1 []) sampleWaiting
        (sampleWaiting.handle default (commandBytes .startNewTransaction 1 [])).1) ∧
    (sampleWaiting.run (List.replicate 3 (default, commandBytes .checkPartner 0 []))).1 =
      sampleWaiting := by
  obtain ⟨hrefused, hcarried, hrun⟩ := refused_changes_nothing sampleWaiting
  have hstatus : (sampleWaiting.handle default (commandBytes .checkPartner 0 [])).2.status =
      .signVerificationFail := by decide +kernel
  have hother : ¬Instruction.sendTrustedNameDescriptor.IsIn (commandBytes .checkPartner 0 []) := by
    decide
  have hstart : (sampleWaiting.handle default (commandBytes .startNewTransaction 1 [])).2.status =
      .success := by decide +kernel
  refine ⟨⟨hstatus, ?_⟩, ⟨hstart, hcarried _ _ hstart⟩, ?_⟩
  · obtain ⟨-, -, hsame⟩ := hrefused default (commandBytes .checkPartner 0 []) (by simp [hstatus])
    exact hsame hother
  · refine (hrun (List.replicate 3 (default, commandBytes .checkPartner 0 [])) ?_).2 ?_
    · decide +kernel
    · simpa using hother

end Device

end Countersign

/-
# What an accepted address check proves about the past

An address is checked only at the end of a chain: a transaction was started, a key was set for its
flow, and the root has signed exactly the credentials that were set. The state of a device says how
far the chain has come, and here it is shown to say nothing else: in every state that a run can
reach, stage, flow and credentials are what the last commands of the history have made of them.

A start may name its flow by any byte, and a byte without a flow starts a swap. So the parameter of
the start is that of the later commands only as long as it is the code of a flow; the last theorem
of this module is a run in which it is not.
-/

import Countersign.Proofs.Device.Run
import Countersign.Root
import Countersign.Signature.Ecdsa

namespace Countersign

namespace Flow

theorem code_lt_six (flow : Flow) : flow.code < 6 := by
  cases flow <;> decide

/-- A byte is the code of the flow that it starts as long as it is the code of any flow. -/
theorem code_ofCode_eq_iff {code : UInt8} : (ofCode code).code = code ↔ code < 6 := by
  constructor
  · intro hcode
    rw [← hcode]
    exact code_lt_six _
  · intro hless
    have hbytes : ∀ number < 6, (ofCode (UInt8.ofNat number)).code = UInt8.ofNat number := by decide
    have hnumber : code.toNat < 6 := UInt8.lt_iff_toNat_lt.1 hless
    simpa only [UInt8.ofNat_toNat] using hbytes code.toNat hnumber

end Flow

/-- Whether carrying out an instruction moves a transaction to another stage. -/
def Instruction.movesOn : Instruction → Bool
  | .startNewTransaction | .setPartnerKey | .checkPartner => true
  | _ => false

/-- Nothing that was carried out in these turns moved a transaction to another stage. -/
def Still (turns : List Turn) : Prop :=
  ∀ turn ∈ turns, ∀ deed, turn.deed? = some deed → deed.instruction.movesOn = false

/-- This deed is the last one in a history that moved a transaction to another stage, and the part
of the history before it is as `earlier` says. -/
def LastMove (earlier : List Turn → Prop) (deed : Deed) (history : List Turn) : Prop :=
  ∃ before turn after, history = before ++ turn :: after ∧ earlier before ∧
    turn.deed? = some deed ∧ Still after

/-- A transaction was started with this parameter, and that was the last move. -/
def StartedBy (parameter : UInt8) (history : List Turn) : Prop :=
  ∃ data, LastMove (fun _ => True) ⟨.startNewTransaction, parameter, data⟩ history

/-- After a start with this parameter, the next and last move set these credentials. -/
def KeySetBy (parameter p2 : UInt8) (credentials : Bytes) (history : List Turn) : Prop :=
  LastMove (StartedBy parameter) ⟨.setPartnerKey, p2, credentials⟩ history

/-- After a start with this parameter and the setting of these credentials, the next and last move
checked this signature. -/
def CheckedBy (parameter p2 : UInt8) (credentials signature : Bytes) (history : List Turn) : Prop :=
  LastMove (KeySetBy parameter p2 credentials) ⟨.checkPartner, p2, signature⟩ history

/-- An address was checked in this turn, and found good. -/
def Turn.ChecksAddress (turn : Turn) (p2 : UInt8) : Prop :=
  ∃ data, turn.deed? = some ⟨.checkPayoutAddress, p2, data⟩ ∨
    turn.deed? = some ⟨.checkRefundAddress, p2, data⟩

theorem still_nil : Still [] := by
  intro turn hmem
  cases hmem

theorem Still.concat {turns : List Turn} (hstill : Still turns) {turn : Turn}
    (hturn : ∀ deed, turn.deed? = some deed → deed.instruction.movesOn = false) :
    Still (turns ++ [turn]) := by
  intro found hmem deed hdeed
  rcases List.mem_append.1 hmem with hearlier | hlast
  · exact hstill found hearlier deed hdeed
  · rw [List.mem_singleton.1 hlast] at hdeed
    exact hturn deed hdeed

/-- A turn that moves nothing leaves the last move where it is. -/
theorem LastMove.concat {earlier : List Turn → Prop} {deed : Deed} {history : List Turn}
    (hmove : LastMove earlier deed history) {turn : Turn}
    (hturn : ∀ deed, turn.deed? = some deed → deed.instruction.movesOn = false) :
    LastMove earlier deed (history ++ [turn]) := by
  obtain ⟨before, move, after, rfl, hearlier, hdeed, hstill⟩ := hmove
  exact ⟨before, move, after ++ [turn], by simp, hearlier, hdeed, hstill.concat hturn⟩

/-- A deed is the last move right after it was carried out. -/
theorem lastMove_concat {earlier : List Turn → Prop} {deed : Deed} {history : List Turn}
    (hearlier : earlier history) {turn : Turn} (hdeed : turn.deed? = some deed) :
    LastMove earlier deed (history ++ [turn]) :=
  ⟨history, turn, [], rfl, hearlier, hdeed, still_nil⟩

/-- A history with a last move contains the turn that made it. -/
theorem LastMove.mem {earlier : List Turn → Prop} {deed : Deed} {history : List Turn}
    (hmove : LastMove earlier deed history) : some deed ∈ history.map Turn.deed? := by
  obtain ⟨before, move, after, rfl, -, hdeed, -⟩ := hmove
  simp [hdeed]

/-- The chain that a checked partner stands at the end of begins with a start. -/
theorem CheckedBy.exists_start_mem {parameter p2 : UInt8} {credentials signature : Bytes}
    {history : List Turn} (hchecked : CheckedBy parameter p2 credentials signature history) :
    ∃ data, some ⟨.startNewTransaction, parameter, data⟩ ∈ history.map Turn.deed? := by
  obtain ⟨beforeCheck, check, afterCheck, rfl, hset, -, -⟩ := hchecked
  obtain ⟨beforeSet, set, afterSet, rfl, ⟨data, hstarted⟩, -, -⟩ := hset
  refine ⟨data, ?_⟩
  simp only [List.map_append, List.mem_append]
  exact Or.inl (Or.inl hstarted.mem)

namespace Device

variable {S : SignatureScheme}

/-- Stage, flow and credentials of a device are what the history has made of them. -/
def Accounted (history : List Turn) (device : Device S) : Prop :=
  match device.stage with
  | .idle => device.credentials = [] ∧ Still history
  | .started =>
    device.credentials = [] ∧
      ∃ parameter, StartedBy parameter history ∧ device.flow = Flow.ofCode parameter
  | .partnerKeySet =>
    Registers S device.flow device.credentials ∧
      ∃ parameter, KeySetBy parameter device.flow.code device.credentials history ∧
        device.flow = Flow.ofCode parameter
  | .partnerChecked =>
    Registers S device.flow device.credentials ∧
      ∃ parameter signature,
        CheckedBy parameter device.flow.code device.credentials signature history ∧
        device.flow = Flow.ofCode parameter ∧
        checkSignature S device.config.root device.credentials signature = .ok ()

variable {device next : Device S} {history : List Turn} {turn : Turn} {draw : Draw}

/-- A turn that moves nothing keeps the account, also when it uses up the challenge. -/
theorem Accounted.concat (hhistory : Accounted history device)
    (hturn : ∀ deed, turn.deed? = some deed → deed.instruction.movesOn = false)
    (hstage : next.stage = device.stage) (hflow : next.flow = device.flow)
    (hcredentials : next.credentials = device.credentials)
    (hconfig : next.config = device.config) : Accounted (history ++ [turn]) next := by
  unfold Accounted at hhistory ⊢
  rw [hstage, hflow, hcredentials, hconfig]
  cases hat : device.stage with
  | idle =>
    simp only [hat] at hhistory ⊢
    exact ⟨hhistory.1, hhistory.2.concat hturn⟩
  | started =>
    simp only [hat] at hhistory ⊢
    obtain ⟨hempty, parameter, ⟨data, hmove⟩, hparameter⟩ := hhistory
    exact ⟨hempty, parameter, ⟨data, hmove.concat hturn⟩, hparameter⟩
  | partnerKeySet =>
    simp only [hat] at hhistory ⊢
    obtain ⟨hregisters, parameter, hmove, hparameter⟩ := hhistory
    exact ⟨hregisters, parameter, hmove.concat hturn, hparameter⟩
  | partnerChecked =>
    simp only [hat] at hhistory ⊢
    obtain ⟨hregisters, parameter, signature, hmove, hparameter, hsigned⟩ := hhistory
    exact ⟨hregisters, parameter, signature, hmove.concat hturn, hparameter, hsigned⟩

/-- What one turn does to the account: whatever the device was asked, its state afterwards is what
the longer history has made of it. -/
theorem Accounted.handles (hhistory : Accounted history device)
    (hhandles : Handles device draw turn next) : Accounted (history ++ [turn]) next := by
  have hrefused (hdeed : turn.deed? = none) :
      ∀ deed, turn.deed? = some deed → deed.instruction.movesOn = false := by
    intro deed hsome
    rw [hdeed] at hsome
    cases hsome
  cases hhandles with
  | unread hdeed _ _ => exact hhistory.concat (hrefused hdeed) rfl rfl rfl rfl
  | @refused instruction _ hdeed _ _ =>
    cases instruction <;> exact hhistory.concat (hrefused hdeed) rfl rfl rfl rfl
  | @carried instruction p2 data _ _ hdeed _ hcarries =>
    have hmoves : ∀ found, turn.deed? = some found → found.instruction = instruction := by
      intro found hfound
      rw [hdeed] at hfound
      cases hfound
      rfl
    have hturn (hstill : instruction.movesOn = false) :
        ∀ found, turn.deed? = some found → found.instruction.movesOn = false :=
      fun found hfound => hmoves found hfound ▸ hstill
    cases hcarries with
    | version => exact hhistory.concat (hturn rfl) rfl rfl rfl rfl
    | checkPayoutAddress _ => exact hhistory.concat (hturn rfl) rfl rfl rfl rfl
    | checkRefundAddress _ => exact hhistory.concat (hturn rfl) rfl rfl rfl rfl
    | challenge => exact hhistory.concat (hturn rfl) rfl rfl rfl rfl
    | trustedName _ => exact hhistory.concat (hturn rfl) rfl rfl rfl rfl
    | start => exact ⟨rfl, p2, ⟨data, lastMove_concat trivial hdeed⟩, rfl⟩
    | setPartnerKey hstage hflow hregisters =>
      simp only [Accounted, hstage] at hhistory
      obtain ⟨-, parameter, hstarted, hparameter⟩ := hhistory
      subst hflow
      exact ⟨hregisters, parameter, lastMove_concat hstarted hdeed, hparameter⟩
    | checkPartner hstage hflow hsigned =>
      simp only [Accounted, hstage] at hhistory
      obtain ⟨hregisters, parameter, hset, hparameter⟩ := hhistory
      subst hflow
      exact ⟨hregisters, parameter, data, lastMove_concat hset hdeed, hparameter, hsigned⟩

theorem config_eq_of_handles (hhandles : Handles device draw turn next) :
    next.config = device.config := by
  cases hhandles with
  | @refused instruction _ _ _ _ => cases instruction <;> rfl
  | unread _ _ _ => rfl
  | carried _ _ hcarries => cases hcarries <;> rfl

/-- A run keeps the account that a history has given so far. -/
theorem Accounted.run (hhistory : Accounted history device) (inputs : List (Draw × Bytes)) :
    Accounted (history ++ (device.run inputs).2) (device.run inputs).1 := by
  induction inputs generalizing history device with
  | nil => simpa [Device.run] using hhistory
  | cons input inputs ih =>
    obtain ⟨draw, bytes⟩ := input
    have hnext := ih (hhistory.handles (handles_handle device draw bytes))
    simpa [Device.run] using hnext

theorem config_run (device : Device S) (inputs : List (Draw × Bytes)) :
    (device.run inputs).1.config = device.config := by
  induction inputs generalizing device with
  | nil => rfl
  | cons input inputs ih =>
    obtain ⟨draw, bytes⟩ := input
    exact (ih _).trans (config_eq_of_handles (handles_handle device draw bytes))

/-- In every state that a run reaches, the state is what the history has made of it. -/
theorem accounted_run_new (config : DeviceConfig S) (draw : Draw) (inputs : List (Draw × Bytes)) :
    Accounted ((new config draw).run inputs).2 ((new config draw).run inputs).1 := by
  have hnew : Accounted [] (new config draw) := ⟨rfl, still_nil⟩
  simpa using hnew.run inputs

/-- An address is found good only for a partner that was vouched for. -/
theorem checkAddress_of_handles {p2 : UInt8} (hhandles : Handles device draw turn next)
    (hturn : turn.ChecksAddress p2) : device.stage = .partnerChecked ∧ p2 = device.flow.code := by
  obtain ⟨data, hpayout | hrefund⟩ := hturn
  · obtain ⟨answer, hcarries⟩ := hhandles.exists_carries hpayout
    cases hcarries with
    | checkPayoutAddress hchecked => exact (checkAddress_eq_ok_iff.1 hchecked).1
  · obtain ⟨answer, hcarries⟩ := hhandles.exists_carries hrefund
    cases hcarries with
    | checkRefundAddress hchecked => exact (checkAddress_eq_ok_iff.1 hchecked).1

/-- Whatever a device was sent since it was new, an address that it finds good in a flow was
preceded by a start of this flow with no start after it, then by exactly one setting of a key, and
then by exactly one check of a signature of the root over exactly those credentials. The parameter
of the start is the code of the flow exactly when it is the code of any flow. -/
theorem addressCheck_authorised (config : DeviceConfig S) (draw : Draw)
    (inputs : List (Draw × Bytes)) :
    Accounted ((new config draw).run inputs).2 ((new config draw).run inputs).1 ∧
      ∀ before check after p2, ((new config draw).run inputs).2 = before ++ check :: after →
        check.ChecksAddress p2 →
        ∃ parameter credentials signature,
          CheckedBy parameter p2 credentials signature before ∧
          checkSignature S config.root credentials signature = .ok () ∧
          (Flow.ofCode parameter).code = p2 ∧ (parameter = p2 ↔ parameter < 6) := by
  refine ⟨accounted_run_new config draw inputs, ?_⟩
  intro before check after p2 hsplit hcheck
  obtain ⟨earlier, draw', next, rfl, hhandles⟩ := exists_handles_of_run_eq_append hsplit
  obtain ⟨hstage, rfl⟩ := checkAddress_of_handles hhandles hcheck
  have hearlier := accounted_run_new config draw earlier
  simp only [Accounted, hstage, config_run] at hearlier
  obtain ⟨-, parameter, signature, hchain, hparameter, hsigned⟩ := hearlier
  refine ⟨parameter, _, signature, hchain, hsigned, by rw [hparameter], ?_⟩
  rw [hparameter, eq_comm, Flow.code_ofCode_eq_iff]

/-- The bytes of a command with this instruction, parameter and data. -/
def commandBytes (instruction : Instruction) (p2 : UInt8) (data : Bytes) : Bytes :=
  [exchangeClass, instruction.code, 0x00, p2, UInt8.ofNat data.length] ++ data

/-- The credentials of a partner named `p` whose key is the chosen point of the curve. -/
def sampleCredentials : Bytes :=
  [0x01, 0x70, 0x04] ++
    BigEndian.fixed 32 0x79be667ef9dcbbac55a06295ce870b07029bfcdb2dce28d959f2815b16f81798 ++
    BigEndian.fixed 32 0x483ada7726a3c4655da4fbfc0e1108a8fd17b448a68554199c47d08ffb10d4b8

/-- A signature of the test root over these credentials. -/
def sampleSignature : Bytes :=
  SignatureSequence.encode 0x192112438729a2590cad46784f776194a861ad219b034ed28eb526aa4262ba97
    0x1911e691ca17831b142a0d6a11b1c3188da771e5e85826f48c2edfd90b570aa8

/-- A small currency configuration, a signature of the test root over it, and an empty path. -/
def sampleCheck : Bytes :=
  [0x05, 0x01, 0x41, 0x01, 0x42, 0x00] ++
    SignatureSequence.encode 0x0c81ab60fddd61814ab4927fb10bf079821fbf3cca2b43237216e8faf66e5839
      0x6724de6491c7e53145cee9a25e15b0289facbc41641b87f7462396f5cce85edc ++ [0x00]

/-- Registers the partner in a swap and checks an address, after a start with this parameter. -/
def sampleInputs (parameter : UInt8) : List (Draw × Bytes) :=
  [commandBytes .startNewTransaction parameter [], commandBytes .setPartnerKey 0 sampleCredentials,
      commandBytes .checkPartner 0 sampleSignature,
      commandBytes .checkPayoutAddress 0 sampleCheck].map
    fun bytes => (default, bytes)

/-- A device in test mode with a fixed challenge. -/
def sampleConfig : DeviceConfig Ecdsa.scheme where
  version := ⟨4, 0, 0⟩
  root :=
    (⟨rootCurve, BigEndian.value ((testRootPoint.drop 1).take 32),
      BigEndian.value (testRootPoint.drop 33)⟩ : Ecdsa.PublicKey)
  fixedChallenge := some 1

/-- The history of the sample on a device in test mode. -/
def sampleHistory (parameter : UInt8) : List Turn :=
  ((new sampleConfig default).run (sampleInputs parameter)).2

/-- What the sample carries out before its address check. -/
def sampleDeeds (parameter : UInt8) : List (Option Deed) :=
  [some ⟨.startNewTransaction, parameter, []⟩, some ⟨.setPartnerKey, 0, sampleCredentials⟩,
    some ⟨.checkPartner, 0, sampleSignature⟩]

/-- A history that carries out the sample ends in its address check. -/
theorem exists_check_of_map_deed? {history : List Turn} {deeds : List (Option Deed)}
    (hdeeds : history.map Turn.deed? = deeds ++ [some ⟨.checkPayoutAddress, 0, sampleCheck⟩]) :
    ∃ before check, history = before ++ [check] ∧ check.ChecksAddress 0 ∧
      before.map Turn.deed? = deeds := by
  obtain ⟨before, last, rfl, hbefore, hlast⟩ := List.map_eq_append_iff.1 hdeeds
  obtain ⟨check, rest, rfl, hcheck, hrest⟩ := List.map_eq_cons_iff.1 hlast
  rw [List.map_eq_nil_iff.1 hrest]
  exact ⟨before, check, rfl, ⟨sampleCheck, Or.inl hcheck⟩, hbefore⟩

/-- A swap that is started by its code finds the address good, at the end of the chain that the
theorem names. -/
theorem addressCheck_authorised_swap :
    ∃ before check parameter credentials signature,
      sampleHistory 0 = before ++ [check] ∧ check.ChecksAddress 0 ∧
      before.map Turn.deed? = sampleDeeds 0 ∧
      CheckedBy parameter 0 credentials signature before ∧ parameter < 6 := by
  have hdeeds : (sampleHistory 0).map Turn.deed? =
      sampleDeeds 0 ++ [some ⟨.checkPayoutAddress, 0, sampleCheck⟩] := by decide +kernel
  obtain ⟨before, check, hhistory, hcheck, hbefore⟩ := exists_check_of_map_deed? hdeeds
  obtain ⟨parameter, credentials, signature, hchain, -, -, hless⟩ :=
    (addressCheck_authorised sampleConfig _ _).2 before check [] 0 hhistory hcheck
  obtain ⟨data, hstart⟩ := hchain.exists_start_mem
  have hzero : parameter = 0 := by
    rw [hbefore] at hstart
    simp [sampleDeeds] at hstart
    exact hstart.1
  exact ⟨before, check, parameter, credentials, signature, hhistory, hcheck, hbefore, hchain,
    hless.1 hzero⟩

/-- The parameter of the start need not be that of the address check: a device in test mode takes
a start with the byte six, which is no code of a flow, and then carries out a whole swap, whose
code is zero. -/
theorem exists_addressCheck_without_start_of_flow :
    ¬∀ (config : DeviceConfig Ecdsa.scheme) (draw : Draw) (inputs : List (Draw × Bytes))
      (before : List Turn) (check : Turn) (after : List Turn) (p2 : UInt8),
      ((new config draw).run inputs).2 = before ++ check :: after → check.ChecksAddress p2 →
      ∃ credentials signature, CheckedBy p2 p2 credentials signature before ∧
        checkSignature Ecdsa.scheme config.root credentials signature = .ok () := by
  intro hclaim
  have hdeeds : (sampleHistory 6).map Turn.deed? =
      sampleDeeds 6 ++ [some ⟨.checkPayoutAddress, 0, sampleCheck⟩] := by decide +kernel
  obtain ⟨before, check, hhistory, hcheck, hbefore⟩ := exists_check_of_map_deed? hdeeds
  obtain ⟨credentials, signature, hchain, -⟩ :=
    hclaim sampleConfig _ _ before check [] 0 hhistory hcheck
  obtain ⟨data, hstart⟩ := hchain.exists_start_mem
  rw [hbefore] at hstart
  simp [sampleDeeds] at hstart

end Device

end Countersign

/-
# A device never crashes

A device reads commands from whoever is connected to it, and nobody has checked them before. Here it
is given once more by the places of the memory that it looks at, from the header of the command down
to the numbers in the records of a descriptor, and shown to answer what it answers: so no place, sum
or difference on the way ends the program, in whatever state the device is.

A refusal by a decoder is an answer for the device and not the end of its work, so at each decoder
the device takes note of how it came out. Nothing has to be known about the state of the device. The
data of a command are so short that the machine has a number for each of their places.
-/

import Countersign.Proofs.Command.Wire
import Countersign.Proofs.Device.Refusal
import Countersign.Proofs.Stream.Places
import Countersign.Proofs.TrustedName.Safety
import Countersign.Proofs.Wire.Encoders

namespace Countersign

/-- An element behind a one-byte length is memory that a program can have. -/
theorem addressable_of_length_le {bytes : Bytes} (hshort : bytes.length ≤ maxPrefixed) :
    Addressable bytes := by
  have hmax : 2 * maxPrefixed < UInt64.size := by decide
  unfold Addressable
  omega

section Answers

variable {ε α : Type} [Encode α] [EncodeInPlace α]

/-- The bytes that answer with a value. They are written into fresh memory of the announced size,
and there are none if that is refused. -/
def answerInPlace (value : α) : InPlace ε Bytes :=
  match Encode.encodedLength value with
  | .error _ => .ok []
  | .ok size => do
    match ← outcomeOf (storing (storeInto value (List.replicate size 0))) with
    | .error _ => .ok []
    | .ok (count, memory) => .ok (memory.take count)

theorem answerInPlace_eq {value : α} {form : Bytes} (hputs : PutsForm value form)
    (hinside : WritesInside value) : answerInPlace value = (.ok form : InPlace ε Bytes) := by
  have hencode := hputs.encode_eq
  unfold encode at hencode
  unfold answerInPlace
  rw [hputs.size] at hencode ⊢
  dsimp only at hencode ⊢
  rw [hinside.storeInto_eq, storing_inside, outcomeOf_safely]
  cases hinto : encodeInto value (List.replicate form.length 0) with
  | error cause =>
    rw [hinto] at hencode
    cases hencode
  | ok found =>
    rw [hinto] at hencode
    cases hencode
    rfl

end Answers

namespace TrustedNameInfo

variable (S : SignatureScheme)

/-- Checks a whole descriptor in place, for a device with this root and challenge. -/
def checkDescriptorInPlace (root : S.PublicKey) (challenge : UInt32) (descriptor : Bytes) :
    InPlace DescriptorFault Unit := do
  match ← outcomeOf (parseInPlace descriptor) with
  | .error cause => refuse (.malformed cause)
  | .ok info =>
    safely (info.checkFields challenge)
    safely ((checkSignature S root info.signed info.signature).mapError .rejectedSignature)

theorem checkDescriptorInPlace_eq {root : S.PublicKey} {challenge : UInt32} {descriptor : Bytes}
    (hmemory : Addressable descriptor) :
    checkDescriptorInPlace S root challenge descriptor =
      safely (checkDescriptor S root challenge descriptor) := by
  unfold checkDescriptorInPlace checkDescriptor
  rw [parseInPlace_eq hmemory, outcomeOf_safely]
  cases parse descriptor with
  | error cause => rfl
  | ok info => exact (safely_bind _ _).symm

end TrustedNameInfo

/-- The curve and the point that credentials register in a flow, found in place. -/
def registeredPointInPlace? {ε : Type} (flow : Flow) (data : Bytes) :
    InPlace ε (Option (Curve × Bytes)) :=
  if flow.isNg then do
    let found ← findWhole? data
    .ok (found.map fun (credential : CredentialNg) => (credential.curve, credential.publicKey))
  else do
    let found ← findWhole? data
    .ok (found.map fun (credential : Credential) => (flow.partnerCurve, credential.publicKey))

theorem registeredPointInPlace?_eq {ε : Type} {flow : Flow} {data : Bytes}
    (hdata : Addressable data) :
    registeredPointInPlace? flow data =
      (.ok (registeredPoint? flow data) : InPlace ε (Option (Curve × Bytes))) := by
  unfold registeredPointInPlace? registeredPoint?
  rw [(CredentialNg.readsInside data hdata).findWhole?_eq,
    (Credential.readsInside data hdata).findWhole?_eq]
  split <;> rfl

namespace Device

variable {S : SignatureScheme} (device : Device S) {ε : Type}

/-- Sets the key of the partner, found in place. -/
def setPartnerKeyInPlace (p2 : UInt8) (data : Bytes) : InPlace Refusal (Device S) := do
  safely (device.checkFlow p2 .started)
  match ← registeredPointInPlace? device.flow data with
  | none => refuse (.plain .incorrectCommandData)
  | some (curve, point) =>
    match S.publicKey? curve point with
    | none => refuse (.plain .incorrectCommandData)
    | some _ => .ok { device with stage := .partnerKeySet, credentials := data }

/-- Checks an address with a currency configuration, both read in place. -/
def checkAddressInPlace (p2 : UInt8) (data : Bytes) : InPlace Refusal Unit := do
  safely (device.checkFlow p2 .partnerChecked)
  match ← (findWhole? data : InPlace Refusal (Option AddressCheck)) with
  | none => refuse (.plain .incorrectCommandData)
  | some check =>
    match ← outcomeOf (CurrencyConfig.parseInPlace check.config) with
    | .error _ => refuse (.plain .incorrectCommandData)
    | .ok _ =>
      match checkSignature S device.config.root check.config check.signature with
      | .error cause => refuse ⟨.signVerificationFail, some (.currencyConfiguration cause)⟩
      | .ok () => .ok ()

/-- Checks a trusted name descriptor in place. -/
def checkTrustedNameInPlace (data : Bytes) : InPlace Refusal Unit := do
  match ← outcomeOf
      (TrustedNameInfo.checkDescriptorInPlace S device.config.root device.challenge data) with
  | .error cause => refuse ⟨.internalError, some (.trustedName cause)⟩
  | .ok () => .ok ()

/-- Carries out an instruction, with its data in place. -/
def performInPlace (draw : Draw) (instruction : Instruction) (p2 : UInt8) (data : Bytes) :
    InPlace ε (Device S × Reply) :=
  match instruction with
  | .getVersion => do
    let answer ← answerInPlace device.config.version
    .ok (device, .accept answer)
  | .startNewTransaction =>
    .ok (device.start p2, .accept (draw.transactionId (Flow.ofCode p2)))
  | .setPartnerKey => do
    let outcome ← outcomeOf (device.setPartnerKeyInPlace p2 data)
    .ok (device.moveOn outcome)
  | .checkPartner => .ok (device.moveOn (device.checkPartner p2 data))
  | .checkPayoutAddress | .checkRefundAddress => do
    let outcome ← outcomeOf (device.checkAddressInPlace p2 data)
    .ok (device, verdict outcome)
  | .getChallenge => do
    let answer ← answerInPlace (Challenge.mk device.challenge)
    .ok (device, .accept answer)
  | .sendTrustedNameDescriptor => do
    let outcome ← outcomeOf (device.checkTrustedNameInPlace data)
    .ok (device.rollChallenge draw, verdict outcome)
  | .processTransactionResponse | .checkTransactionSignature | .startSigningTransaction =>
    .ok (device, .refuse (.plain .invalidInstruction))

/-- The instruction of a command and the command, read in place. -/
def readCommandInPlace (bytes : Bytes) : InPlace Refusal (Instruction × Command) := do
  match ← (findWhole? bytes : InPlace Refusal (Option Command)) with
  | none => refuse (.plain .incorrectCommandData)
  | some command =>
    if command.cla ≠ exchangeClass then refuse (.plain .classNotSupported)
    else
      match Instruction.ofCode? command.ins with
      | none => refuse (.plain .invalidInstruction)
      | some instruction => .ok (instruction, command)

/-- Handles one command in place, well formed or not. -/
def handleInPlace (draw : Draw) (bytes : Bytes) : InPlace ε (Device S × Reply) := do
  match ← outcomeOf (readCommandInPlace bytes) with
  | .error refusal => .ok (device, .refuse refusal)
  | .ok (instruction, command) =>
    device.performInPlace draw instruction command.p2 command.data

variable {device} {p2 : UInt8} {data bytes : Bytes} {command : Command}

theorem setPartnerKeyInPlace_eq (hdata : Addressable data) :
    device.setPartnerKeyInPlace p2 data = safely (device.setPartnerKey p2 data) := by
  unfold setPartnerKeyInPlace setPartnerKey
  rw [safely_bind, registeredPointInPlace?_eq hdata]
  refine congrArg _ (funext fun _ => ?_)
  cases registeredPoint? device.flow data with
  | none => rfl
  | some found =>
    obtain ⟨curve, point⟩ := found
    simp only [bind, Except.bind]
    cases S.publicKey? curve point <;> rfl

/-- The configuration of an address check is no longer than its prefix says. -/
theorem checkAddressInPlace_eq (hdata : Addressable data) :
    device.checkAddressInPlace p2 data = safely (device.checkAddress p2 data) := by
  unfold checkAddressInPlace checkAddress
  rw [safely_bind, (AddressCheck.readsInside data hdata).findWhole?_eq]
  refine congrArg _ (funext fun _ => ?_)
  cases hfound : (decodeWhole? data : Option AddressCheck) with
  | none => rfl
  | some check =>
    have hread := decodeWhole?_eq_some_iff.1 hfound
    have hwritable := (AddressCheck.read_eq_ok_iff.1 hread).1
    simp only [bind, Except.bind,
      CurrencyConfig.parseInPlace_eq (addressable_of_length_le hwritable.config), outcomeOf_safely]
    cases CurrencyConfig.parse check.config with
    | error cause => rfl
    | ok config =>
      simp only
      cases checkSignature S device.config.root check.config check.signature <;> rfl

theorem checkTrustedNameInPlace_eq (hdata : Addressable data) :
    device.checkTrustedNameInPlace data = safely (device.checkTrustedName data) := by
  unfold checkTrustedNameInPlace checkTrustedName
  rw [TrustedNameInfo.checkDescriptorInPlace_eq S hdata, outcomeOf_safely]
  cases TrustedNameInfo.checkDescriptor S device.config.root device.challenge data <;> rfl

/-- Every instruction is carried out in place as it is carried out. -/
theorem performInPlace_eq (draw : Draw) (instruction : Instruction) (hdata : Addressable data) :
    device.performInPlace draw instruction p2 data =
      (.ok (device.perform draw instruction p2 data) : InPlace ε (Device S × Reply)) := by
  cases instruction with
  | getVersion =>
    rw [performInPlace, answerInPlace_eq (Version.putsForm _) (Version.writesInside _)]
    rfl
  | getChallenge =>
    rw [performInPlace, answerInPlace_eq (Challenge.putsForm _) (Challenge.writesInside _)]
    rfl
  | setPartnerKey =>
    rw [performInPlace, setPartnerKeyInPlace_eq hdata, outcomeOf_safely]
    rfl
  | checkPayoutAddress | checkRefundAddress =>
    rw [performInPlace, checkAddressInPlace_eq hdata, outcomeOf_safely]
    rfl
  | sendTrustedNameDescriptor =>
    rw [performInPlace, checkTrustedNameInPlace_eq hdata, outcomeOf_safely]
    rfl
  | startNewTransaction | checkPartner | processTransactionResponse | checkTransactionSignature
  | startSigningTransaction => rfl

theorem readCommandInPlace_eq (bytes : Bytes) :
    readCommandInPlace bytes = safely (readCommand bytes) := by
  unfold readCommandInPlace readCommand
  rw [(Command.follows_find bytes).findWhole?_eq]
  cases (decodeWhole? bytes : Option Command) with
  | none => rfl
  | some command =>
    simp only [bind, Except.bind, safely_ite]
    cases Instruction.ofCode? command.ins <;> rfl

/-- A command is handled in place as it is handled, in every state and however long the bytes. -/
theorem handleInPlace_eq (device : Device S) (draw : Draw) (bytes : Bytes) :
    device.handleInPlace draw bytes =
      (.ok (device.handle draw bytes) : InPlace ε (Device S × Reply)) := by
  unfold handleInPlace handle
  rw [readCommandInPlace_eq, outcomeOf_safely]
  cases hread : readCommand bytes with
  | error refusal => rfl
  | ok found =>
    -- Only what a command carries has to be addressable, and that is never more than 255 bytes.
    obtain ⟨instruction, command⟩ := found
    have hwhole := (readCommand_eq_ok_iff.1 hread).1
    have hshort := (Command.read_eq_ok_iff.1 (decodeWhole?_eq_some_iff.1 hwhole)).1
    exact performInPlace_eq draw instruction (addressable_of_length_le hshort)

/-- No input crashes a device or the reader of a client. A device in any state answers every byte
string, and a client comes to an end with every stream. No decoder leaves the memory that it is
given, whatever lengths the memory announces, and none consumes more than there is. -/
theorem nothing_crashes (device : Device S) (draw : Draw) (bytes : Bytes) (deadline : Option Nat)
    (stream : Stream) {memory : Bytes} (hmemory : Addressable memory) :
    device.handleInPlace draw bytes =
        (.ok (device.handle draw bytes) : InPlace Empty (Device S × Reply)) ∧
      Frame.readResponseInPlace deadline stream = .ok (Frame.readResponse deadline stream) ∧
      (SafeOn memory InMemory.prefixed Field.prefixed ∧
        SafeOn memory InMemory.prefixedText Field.prefixedText ∧
        (∀ count, SafeOn memory (InMemory.run count) (Field.run count)) ∧
        SafeOn memory InMemory.number Der.read) ∧
      (DecodesSafely Tlv memory ∧ DecodesSafely Command memory ∧ DecodesSafely Credential memory ∧
        DecodesSafely CredentialNg memory ∧ DecodesSafely AddressCheck memory ∧
        DecodesSafely CurrencyConfig memory) ∧
      CurrencyConfig.parseInPlace memory = safely (CurrencyConfig.parse memory) ∧
      TrustedNameInfo.parseInPlace memory = safely (TrustedNameInfo.parse memory) := by
  refine ⟨handleInPlace_eq device draw bytes, Frame.readResponseInPlace_eq deadline stream, ?_, ?_,
    CurrencyConfig.parseInPlace_eq hmemory, TrustedNameInfo.parseInPlace_eq hmemory⟩
  · refine ⟨InMemory.decodes_prefixed.safeOn hmemory, InMemory.decodes_prefixedText.safeOn hmemory,
      fun count => ?_, InMemory.decodes_number.safeOn hmemory⟩
    exact (InMemory.decodes_run count).safeOn hmemory
  · exact ⟨Tlv.readsInside.safeOn hmemory, Command.readsInside.safeOn hmemory,
      Credential.readsInside.safeOn hmemory, CredentialNg.readsInside.safeOn hmemory,
      AddressCheck.readsInside.safeOn hmemory, CurrencyConfig.readsInside.safeOn hmemory⟩

/-- A record that announces the longest value of all, and has none of it. -/
def sampleHuge : Bytes :=
  0x22 :: 0x88 :: List.replicate 8 0xff

/-- A stream that is closed within the status of a response. -/
def sampleCut : Stream where
  incoming := [.data [0x00, 0x00, 0x00], .data [0x00, 0x90], .close]

theorem readResponse_sampleCut :
    Frame.readResponse none sampleCut =
      (.error (.connectionClosed 2 1), { incoming := [.close] }) := by
  have hlength : BigEndian.value [0x00, 0x00, 0x00, 0x00] = 0 := rfl
  simp [Frame.readResponse, Frame.readResponseBody, Frame.headerLength, Stream.readExactly,
    Stream.readMore, Stream.read, Stream.await, Stream.keepUnread, sampleCut, hlength]

/-- A device that is handed the record as a descriptor refuses it, and so does everyone who reads
it; a client notices that a byte is missing. -/
theorem nothing_crashes_huge :
    Addressable sampleHuge ∧
      (∃ after reply, sampleWaiting.handleInPlace default
          (commandBytes .sendTrustedNameDescriptor 0 sampleHuge) =
            (.ok (after, reply) : InPlace Empty (Device Ecdsa.scheme × Reply)) ∧
        reply.status = .internalError) ∧
      (∃ after, Frame.readResponseInPlace none sampleCut =
        .ok (.error (.connectionClosed 2 1), after)) ∧
      (DecodeInPlace.find sampleHuge : InPlace WireError (Tlv × Nat)) = refuse .invalidLength ∧
      TrustedNameInfo.parseInPlace sampleHuge = refuse .invalidLength := by
  have hmemory : Addressable sampleHuge := by
    unfold Addressable
    decide
  obtain ⟨hhandle, hresponse, -, ⟨hrecord, -⟩, -, hparse⟩ :=
    nothing_crashes sampleWaiting default (commandBytes .sendTrustedNameDescriptor 0 sampleHuge)
      none sampleCut hmemory
  refine ⟨hmemory, ⟨_, _, hhandle, by decide +kernel⟩, ?_, hrecord.eq_safely.trans rfl,
    hparse.trans rfl⟩
  exact ⟨_, hresponse.trans (congrArg _ readResponse_sampleCut)⟩

end Device

end Countersign

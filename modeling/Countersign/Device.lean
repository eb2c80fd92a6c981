/-
# The device

A device in test mode leads a transaction through three steps: it is started for a flow, the key of
a partner is set, and the signature of the root over the partner's credentials is checked. Only
then are addresses checked. Trusted name descriptors are checked at any time, each against a
challenge that is used once.

A refused command leaves the device as it is, except that every descriptor uses up its challenge.
-/

import Countersign.AddressCheck
import Countersign.Command
import Countersign.Command.Request
import Countersign.Command.Response
import Countersign.Command.StatusWord
import Countersign.Credential
import Countersign.Currency
import Countersign.Device.Descriptor
import Countersign.Flow
import Countersign.Hash.Sha256
import Countersign.Root

namespace Countersign

/-- How far a transaction has come. -/
inductive Stage where
  /-- No transaction was ever started. -/
  | idle
  /-- A transaction is started. -/
  | started
  /-- The key of the partner is set, and nobody has vouched for it. -/
  | partnerKeySet
  /-- The root has vouched for the partner. -/
  | partnerChecked
  deriving DecidableEq, Repr

/-- The name under which a stage is shown. -/
def Stage.name : Stage → String
  | idle => "Idle"
  | started => "Started"
  | partnerKeySet => "PartnerKeySet"
  | partnerChecked => "PartnerChecked"

/-- The random values that a device may need to handle one command. -/
structure Draw where
  /-- The next challenge. -/
  challenge : UInt32
  /-- The letters of a printable transaction id. -/
  letter : Nat → Fin 26
  /-- The bytes of a random transaction id. -/
  byte : Nat → UInt8
  deriving Inhabited

namespace Draw

/-- Random values that depend on all of the entropy. -/
def ofEntropy (entropy : Bytes) : Draw :=
  let digits := (Sha256.hash entropy).toArray
  let byteAt (index : Nat) : UInt8 := digits.getD index 0
  { challenge := UInt32.ofNat (BigEndian.value (Sha256.hash (entropy ++ [0x00]) |>.take 4))
    letter := fun index => Fin.ofNat 26 (byteAt index).toNat
    byte := byteAt }

/-- A printable transaction id: ten capital letters. -/
def printableId (draw : Draw) : Bytes :=
  (List.range 10).map fun index => UInt8.ofNat (65 + (draw.letter index).val)

/-- A random transaction id: 32 bytes. -/
def nonceId (draw : Draw) : Bytes :=
  (List.range 32).map draw.byte

/-- The id of a transaction. Swaps of the first generation have printable ones. -/
def transactionId (draw : Draw) : Flow → Bytes
  | .swap => draw.printableId
  | _ => draw.nonceId

end Draw

/-- What stays the same over the life of a device. -/
structure DeviceConfig (S : SignatureScheme) where
  /-- The version that the device reports. -/
  version : Version
  /-- The root that the device trusts. -/
  root : S.PublicKey
  /-- The challenge of a device that always uses the same one. -/
  fixedChallenge : Option UInt32 := none

/-- The configuration of a device in test mode. -/
def DeviceConfig.testMode (S : SignatureScheme) : Except Error (DeviceConfig S) :=
  (testRootKey S).map fun root => { version := ⟨4, 0, 0⟩, root }

/-- A device and the state of its transaction. -/
structure Device (S : SignatureScheme) where
  config : DeviceConfig S
  stage : Stage
  /-- The flow of the transaction. -/
  flow : Flow
  /-- The encoded credentials of the partner, once they are set. -/
  credentials : Bytes
  /-- The challenge that the next descriptor has to contain. -/
  challenge : UInt32

/-- Which check has refused a signature or a descriptor, and why. -/
inductive Rejection where
  | partnerCredential (cause : Error)
  | currencyConfiguration (cause : Error)
  | trustedName (cause : DescriptorFault)
  deriving DecidableEq, Repr

/-- The warning that a device logs about a rejection. -/
def Rejection.message : Rejection → String
  | partnerCredential cause => "mock: partner credential rejected: " ++ cause.message
  | currencyConfiguration cause => "mock: currency configuration rejected: " ++ cause.message
  | trustedName cause => "mock: trusted name rejected: " ++ cause.message

/-- How a command is refused. -/
structure Refusal where
  status : StatusWord
  /-- The failed check, where the refusal comes from one. -/
  rejection : Option Rejection := none
  deriving DecidableEq, Repr

/-- The refusal by a status word alone. -/
def Refusal.plain (status : StatusWord) : Refusal :=
  { status }

/-- What a device answers, and what it logs. -/
structure Reply where
  data : Bytes
  status : StatusWord
  rejection : Option Rejection
  deriving DecidableEq, Repr

namespace Reply

/-- The answer to a command that was carried out. -/
def accept (data : Bytes) : Reply :=
  ⟨data, .success, none⟩

/-- The answer to a command that was refused: it never carries data. -/
def refuse (refusal : Refusal) : Reply :=
  ⟨[], refusal.status, refusal.rejection⟩

/-- The response that carries the answer. -/
def toResponse (reply : Reply) : Response :=
  ⟨reply.data, reply.status.code⟩

/-- The warnings that the device logs. -/
def warnings (reply : Reply) : List String :=
  reply.rejection.toList.map Rejection.message

end Reply

/-- The curve and the point that credentials register in a flow. They have to be of the form which
the flow uses, and nothing may follow them. -/
def registeredPoint? (flow : Flow) (data : Bytes) : Option (Curve × Bytes) :=
  if flow.isNg then
    (decodeWhole? data).map fun (credential : CredentialNg) =>
      (credential.curve, credential.publicKey)
  else
    (decodeWhole? data).map fun (credential : Credential) =>
      (flow.partnerCurve, credential.publicKey)

namespace Device

variable {S : SignatureScheme}

/-- The challenge that comes next. -/
def nextChallenge (config : DeviceConfig S) (draw : Draw) : UInt32 :=
  config.fixedChallenge.getD draw.challenge

/-- A device on which no transaction was started. -/
def new (config : DeviceConfig S) (draw : Draw) : Device S where
  config := config
  stage := .idle
  flow := .swap
  credentials := []
  challenge := nextChallenge config draw

variable (device : Device S)

/-- Starts a transaction, whatever came before. -/
def start (p2 : UInt8) : Device S :=
  { device with stage := .started, flow := Flow.ofCode p2, credentials := [] }

/-- Refuses a command that comes at another stage or for another flow. -/
def checkFlow (p2 : UInt8) (expected : Stage) : Except Refusal Unit :=
  if device.stage ≠ expected then .error (.plain .invalidInstruction)
  else if p2 ≠ device.flow.code then .error (.plain .wrongP2)
  else .ok ()

/-- Sets the key of the partner. -/
def setPartnerKey (p2 : UInt8) (data : Bytes) : Except Refusal (Device S) := do
  device.checkFlow p2 .started
  match registeredPoint? device.flow data with
  | none => .error (.plain .incorrectCommandData)
  | some (curve, point) =>
    match S.publicKey? curve point with
    | none => .error (.plain .incorrectCommandData)
    | some _ => .ok { device with stage := .partnerKeySet, credentials := data }

/-- Checks the signature of the root over the credentials. -/
def checkPartner (p2 : UInt8) (signature : Bytes) : Except Refusal (Device S) := do
  device.checkFlow p2 .partnerKeySet
  match checkSignature S device.config.root device.credentials signature with
  | .error cause => .error ⟨.signVerificationFail, some (.partnerCredential cause)⟩
  | .ok () => .ok { device with stage := .partnerChecked }

/-- Checks an address with a currency configuration. -/
def checkAddress (p2 : UInt8) (data : Bytes) : Except Refusal Unit := do
  device.checkFlow p2 .partnerChecked
  match (decodeWhole? data : Option AddressCheck) with
  | none => .error (.plain .incorrectCommandData)
  | some check =>
    match CurrencyConfig.parse check.config with
    | .error _ => .error (.plain .incorrectCommandData)
    | .ok _ =>
      match checkSignature S device.config.root check.config check.signature with
      | .error cause => .error ⟨.signVerificationFail, some (.currencyConfiguration cause)⟩
      | .ok () => .ok ()

/-- Checks a trusted name descriptor. -/
def checkTrustedName (data : Bytes) : Except Refusal Unit :=
  match TrustedNameInfo.checkDescriptor S device.config.root device.challenge data with
  | .error cause => .error ⟨.internalError, some (.trustedName cause)⟩
  | .ok () => .ok ()

/-- The device with the next challenge. -/
def rollChallenge (draw : Draw) : Device S :=
  { device with challenge := nextChallenge device.config draw }

/-- Moves on to another state, or stays where it is and refuses. -/
def moveOn : Except Refusal (Device S) → Device S × Reply
  | .error refusal => (device, .refuse refusal)
  | .ok next => (next, .accept [])

/-- The answer to a check. -/
def verdict : Except Refusal Unit → Reply
  | .error refusal => .refuse refusal
  | .ok () => .accept []

/-- Carries out an instruction. -/
def perform (draw : Draw) (instruction : Instruction) (p2 : UInt8) (data : Bytes) :
    Device S × Reply :=
  match instruction with
  | .getVersion => (device, .accept device.config.version.toBytes)
  | .startNewTransaction =>
    (device.start p2, .accept (draw.transactionId (Flow.ofCode p2)))
  | .setPartnerKey => device.moveOn (device.setPartnerKey p2 data)
  | .checkPartner => device.moveOn (device.checkPartner p2 data)
  | .checkPayoutAddress | .checkRefundAddress => (device, verdict (device.checkAddress p2 data))
  | .getChallenge => (device, .accept (Challenge.toBytes ⟨device.challenge⟩))
  | .sendTrustedNameDescriptor =>
    (device.rollChallenge draw, verdict (device.checkTrustedName data))
  | .processTransactionResponse | .checkTransactionSignature | .startSigningTransaction =>
    (device, .refuse (.plain .invalidInstruction))

/-- The instruction of a command and the command, if the bytes are one that a device knows. -/
def readCommand (bytes : Bytes) : Except Refusal (Instruction × Command) :=
  match (decodeWhole? bytes : Option Command) with
  | none => .error (.plain .incorrectCommandData)
  | some command =>
    if command.cla ≠ exchangeClass then .error (.plain .classNotSupported)
    else
      match Instruction.ofCode? command.ins with
      | none => .error (.plain .invalidInstruction)
      | some instruction => .ok (instruction, command)

/-- Handles one command, well formed or not. -/
def handle (draw : Draw) (bytes : Bytes) : Device S × Reply :=
  match readCommand bytes with
  | .error refusal => (device, .refuse refusal)
  | .ok (instruction, command) => device.perform draw instruction command.p2 command.data

end Device

end Countersign

/-
# Handles

A handle is how a client talks to a device: it knows the rate and the flow that go with every
request and how long to wait for the answer. Each request is one exchange of a command for a
response; what carries the exchanges is left open.
-/

import Countersign.Authority
import Countersign.Command.Request
import Countersign.Command.Response
import Countersign.Dialog

namespace Countersign

/-- One command that is sent, and how long to wait for its response, in milliseconds. -/
structure Exchange where
  command : Bytes
  timeout : Nat
  deriving DecidableEq, Repr

/-- What comes back for a command. -/
abbrev ExchangeAnswer (_ : Exchange) : Type :=
  Except Error Response

/-- A client of a device: a dialog in which every question is an exchange, and which may fail. -/
abbrev Client (α : Type) : Type :=
  ExceptT Error (Dialog ExchangeAnswer) α

/-- How long a client waits for a response when nothing else is said, in milliseconds. -/
def defaultTimeout : Nat := 5000

/-- What a client puts into every request. -/
structure Handle where
  rate : Rate := .fixed
  flow : Flow := .swap
  /-- How long to wait for a response, in milliseconds. -/
  timeout : Nat := defaultTimeout
  deriving DecidableEq, Repr

namespace Handle

variable (handle : Handle)

/-- The same handle for another rate and flow. -/
def withFlow (rate : Rate) (flow : Flow) : Handle :=
  { handle with rate, flow }

/-- Sends a command as it is. -/
def exchange (command : Bytes) : Client Response :=
  ExceptT.mk (Dialog.question (⟨command, handle.timeout⟩ : Exchange))

/-- Sends a request, and takes the data of a success. -/
def request (request : Request) : Client Bytes := do
  let command ← ExceptT.mk (.done
    ((request.toCommand handle.rate.code handle.flow.code).mapError .wire))
  let response ← handle.exchange command
  ExceptT.mk (.done response.toResult)

/-- Sends a request whose answer has a form of its own. More bytes than the form has are let
through. -/
def requestObject {α : Type} [Decode α] (request : Request) : Client α := do
  let data ← handle.request request
  match Decode.read data with
  | .ok (object, _) => pure object
  | .error _ => throw .unexpectedResponse

/-- The version of the application on the device. -/
def version : Client Version :=
  handle.requestObject .getVersion

/-- Starts a transaction, and takes its id. -/
def startTransaction : Client Bytes :=
  handle.request .startNewTransaction

/-- Sends the credentials of a partner. -/
def setPartnerKey (credentials : Bytes) : Client Unit := do
  let _ ← handle.request (.setPartnerKey credentials)

/-- Sends the signature of the root over the credentials. -/
def checkPartner (signature : Bytes) : Client Unit := do
  let _ ← handle.request (.checkPartner signature)

/-- Has the payout address checked. -/
def checkPayoutAddress (check : AddressCheck) : Client Unit := do
  let _ ← handle.request (.checkPayoutAddress check)

/-- Has the refund address checked. -/
def checkRefundAddress (check : AddressCheck) : Client Unit := do
  let _ ← handle.request (.checkRefundAddress check)

/-- The challenge that the next descriptor has to contain. -/
def challenge : Client UInt32 := do
  let challenge : Challenge ← handle.requestObject .getChallenge
  pure challenge.number

/-- Sends a signed trusted name descriptor. -/
def sendTrustedName (descriptor : Bytes) : Client Unit := do
  let _ ← handle.request (.trustedName descriptor)

/-- Registers a partner: sends its credentials for the flow of the handle, and then the signature
of the root over them. -/
def register {S : SignatureScheme} (partner root : Authority S) (entropy : Bytes) :
    Client Unit := do
  let credentials := partner.credentialsFor handle.flow
  handle.setPartnerKey credentials
  handle.checkPartner (root.sign entropy credentials)

end Handle

end Countersign

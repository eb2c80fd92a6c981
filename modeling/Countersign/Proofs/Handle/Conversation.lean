/-
# A client and a device in conversation

A client that talks to a device and to nobody else asks one exchange after the other, and the device
answers each at once. The history of the conversation is kept, so that a client that has asked
nothing can be told from one that was refused.

Nothing gets lost here. What a client makes of exchanges that fail is a question about the client
alone.
-/

import Countersign.Proofs.Handle.Request

namespace Countersign

/-- A device in conversation: what it was told and has answered, and the random values that it will
have for each command. -/
structure Conversation (S : SignatureScheme) where
  device : Device S
  history : List Turn
  draw : Nat → Draw

namespace Conversation

variable {S : SignatureScheme} {α β : Type}

/-- The device handles one more command. -/
def tell (conversation : Conversation S) (command : Bytes) : Reply × Conversation S :=
  let (device, reply) :=
    conversation.device.handle (conversation.draw conversation.history.length) command
  (reply, { conversation with device, history := conversation.history ++ [⟨command, reply⟩] })

/-- The device answers an exchange. -/
def answer (exchange : Exchange) : StateM (Conversation S) (ExchangeAnswer exchange) :=
  fun conversation =>
    let (reply, next) := conversation.tell exchange.command
    (.ok reply.toResponse, next)

/-- Holds a dialog with the device: its result, and the conversation after it. -/
def hold (conversation : Conversation S) (dialog : Dialog ExchangeAnswer α) : α × Conversation S :=
  (dialog.hold answer : StateM (Conversation S) α) conversation

/-- Dialogs in a row are held in a row. -/
theorem hold_bind (conversation : Conversation S) (dialog : Dialog ExchangeAnswer α)
    (next : α → Dialog ExchangeAnswer β) :
    conversation.hold (dialog.bind next) =
      (conversation.hold dialog).2.hold (next (conversation.hold dialog).1) := by
  induction dialog generalizing conversation with
  | done result => rfl
  | ask exchange rest ih => exact ih _ _

variable {conversation later : Conversation S} {client : Client α}

theorem hold_bind_of_ok {value : α} (next : α → Client β)
    (hfirst : conversation.hold client.run = (.ok value, later)) :
    conversation.hold (client >>= next).run = later.hold (next value).run := by
  have hbind := conversation.hold_bind client.run (ExceptT.bindCont next)
  rw [hfirst] at hbind
  exact hbind

theorem hold_bind_of_error {cause : Error} (next : α → Client β)
    (hfirst : conversation.hold client.run = (.error cause, later)) :
    conversation.hold (client >>= next).run = (.error cause, later) := by
  have hbind := conversation.hold_bind client.run (ExceptT.bindCont next)
  rw [hfirst] at hbind
  exact hbind

variable {handle : Handle} {request : Request} {payload : Bytes}

/-- A request that fits a command is told to the device, and its result is the one of the reply. -/
theorem hold_request_of_toCommand_ok {command : Bytes}
    (hcommand : request.toCommand handle.rate.code handle.flow.code = .ok command) :
    conversation.hold (handle.request request).run =
      ((conversation.tell command).1.toResponse.toResult, (conversation.tell command).2) := by
  rw [Handle.request_of_toCommand_ok hcommand]
  rfl

/-- A request that the device carries out gives the data of the answer. -/
theorem hold_request_of_accept {answer : Bytes} {next : Device S}
    (hpayload : request.payload? = some payload) (hshort : payload.length ≤ maxCommandData)
    (hperform : conversation.device.perform (conversation.draw conversation.history.length)
      request.instruction handle.flow.code payload = (next, .accept answer)) :
    ∃ later, conversation.hold (handle.request request).run = (.ok answer, later) ∧
      later.device = next := by
  have hencode := Request.encode_of_payload hpayload
  have hcommand : request.toCommand handle.rate.code handle.flow.code = .ok _ :=
    Request.toCommand_eq_ok_iff.2 ⟨payload, hencode, hshort, rfl⟩
  obtain ⟨data, hdata, hhandle⟩ := Device.exists_handle_of_toCommand hcommand conversation.device
    (conversation.draw conversation.history.length)
  rw [hencode, Except.ok.injEq] at hdata
  rw [← hdata, hperform] at hhandle
  rw [hold_request_of_toCommand_ok hcommand, tell, hhandle]
  exact ⟨_, rfl, rfl⟩

/-- A request that does not fit a command asks nothing. -/
theorem hold_request_of_long (hpayload : request.payload? = some payload)
    (hlong : maxCommandData < payload.length) :
    conversation.hold (handle.request request).run =
      (.error (.wire (.elementTooLong payload.length)), conversation) := by
  have hrefused := Request.toCommand_of_long (Request.encode_of_payload hpayload) hlong
    handle.rate.code handle.flow.code
  rw [Handle.request_of_toCommand_error hrefused]
  rfl

end Conversation

end Countersign

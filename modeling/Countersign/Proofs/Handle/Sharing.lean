/-
# Handles that share a device

Any number of callers, each with a handle of its own, share one device. A call may take several
exchanges, and between any two of them other callers may have theirs: they may start the transaction
anew, change its flow, or set another partner. An exchange as a whole is never divided, but it may
fail, before or after the device has handled its command.

A call that succeeds has had its last request carried out by the device. What this says about the
device at that moment is all that a caller can rely on.
-/

import Countersign.Proofs.Device.Authorisation
import Countersign.Proofs.Handle.Request

namespace Countersign

/-- What a caller asks of a device through its handle. -/
inductive Call (S : SignatureScheme) where
  | startTransaction
  | setPartnerKey (credentials : Bytes)
  | checkPartner (signature : Bytes)
  | checkPayoutAddress (check : AddressCheck)
  | checkRefundAddress (check : AddressCheck)
  | register (partner root : Authority S) (entropy : Bytes)

/-- The client of a call. Nobody asks here for the id of a transaction. -/
def Call.client {S : SignatureScheme} (handle : Handle) : Call S → Client Unit
  | startTransaction => do
    let _ ← handle.startTransaction
  | setPartnerKey credentials => handle.setPartnerKey credentials
  | checkPartner signature => handle.checkPartner signature
  | checkPayoutAddress check => handle.checkPayoutAddress check
  | checkRefundAddress check => handle.checkRefundAddress check
  | register partner root entropy => handle.register partner root entropy

/-- A call under way, with the dialog that is left of it. -/
structure Pending (S : SignatureScheme) where
  call : Call S
  rest : Dialog ExchangeAnswer (Except Error Unit)

/-- Callers who share a device, and the calls that they have under way. -/
structure Sharing (S : SignatureScheme) (Caller : Type) where
  device : Device S
  pending : Caller → Option (Pending S)

/-- What becomes of an exchange. -/
inductive Fate where
  /-- The device handles the command, and its response arrives. -/
  | answered (draw : Draw)
  /-- The device handles the command, and its response gets lost. -/
  | lost (draw : Draw) (cause : Error)
  /-- The command gets lost. -/
  | unsent (cause : Error)

/-- What a caller does next. -/
inductive Move (S : SignatureScheme) where
  /-- Makes a call, if none is under way. -/
  | call (call : Call S)
  /-- Has the next exchange of the call under way. -/
  | exchange (fate : Fate)

/-- What happened in a move: who moved for which call, the device before and after it, the command
that the device handled, and the result of the call if this ended it. -/
structure Event (S : SignatureScheme) (Caller : Type) where
  caller : Caller
  call : Call S
  before : Device S
  turn : Option Turn
  after : Device S
  result : Option (Except Error Unit)

/-- What comes of a command: the device after it, its turn if the device has handled it, and what
the caller learns. -/
def Device.exchange {S : SignatureScheme} (device : Device S) (command : Bytes) :
    Fate → Device S × Option Turn × Except Error Response
  | .answered draw =>
    let (next, reply) := device.handle draw command
    (next, some ⟨command, reply⟩, .ok reply.toResponse)
  | .lost draw cause =>
    let (next, reply) := device.handle draw command
    (next, some ⟨command, reply⟩, .error cause)
  | .unsent cause => (device, none, .error cause)

namespace Sharing

variable {S : SignatureScheme} {Caller : Type} [DecidableEq Caller]

/-- A shared device on which no call is under way. -/
def atRest (device : Device S) : Sharing S Caller :=
  ⟨device, fun _ => none⟩

/-- Goes on with a call: it ends in a result, or its dialog is kept for the next exchange. -/
def proceed (sharing : Sharing S Caller) (caller : Caller) (call : Call S)
    (rest : Dialog ExchangeAnswer (Except Error Unit)) (next : Device S) (turn : Option Turn) :
    Sharing S Caller × Event S Caller :=
  let (pending, result) : Option (Pending S) × Option (Except Error Unit) :=
    match rest with
    | .done result => (none, some result)
    | .ask exchange rest => (some ⟨call, .ask exchange rest⟩, none)
  (⟨next, fun other => if other = caller then pending else sharing.pending other⟩,
    ⟨caller, call, sharing.device, turn, next, result⟩)

/-- Lets a caller move. A caller does nothing if it cannot make the move. -/
def move (handle : Caller → Handle) (sharing : Sharing S Caller) (caller : Caller) :
    Move S → Sharing S Caller × Option (Event S Caller)
  | .call call =>
    match sharing.pending caller with
    | some _ => (sharing, none)
    | none =>
      let (next, event) :=
        sharing.proceed caller call (call.client (handle caller)).run sharing.device none
      (next, some event)
  | .exchange fate =>
    match sharing.pending caller with
    | some ⟨call, .ask exchange rest⟩ =>
      let (device, turn, answer) := sharing.device.exchange exchange.command fate
      let (next, event) := sharing.proceed caller call (rest answer) device turn
      (next, some event)
    | _ => (sharing, none)

/-- Lets callers move one after the other: what is shared then, and what has happened. -/
def run (handle : Caller → Handle) (sharing : Sharing S Caller) :
    List (Caller × Move S) → Sharing S Caller × List (Event S Caller)
  | [] => (sharing, [])
  | (caller, move) :: moves =>
    let (next, event) := sharing.move handle caller move
    let (last, events) := next.run handle moves
    (last, event.toList ++ events)

end Sharing

/-! ### What is left of a call -/

namespace Handle

variable {handle : Handle} {request : Request}

/-- A request by itself does not succeed before it is answered. -/
theorem run_order_ne_done_ok : (handle.order request).run ≠ .done (.ok ()) := by
  intro hdone
  rcases run_order_cases handle request with ⟨cause, hfailed⟩ | ⟨command, -, hasked⟩
  · cases hfailed.symm.trans hdone
  · cases hasked.symm.trans hdone

/-- The exchange of a request ends it. It ends well only if the response is a result. -/
theorem answer_of_run_order {exchange : Exchange}
    {rest : ExchangeAnswer exchange → Dialog ExchangeAnswer (Except Error Unit)}
    (horder : (handle.order request).run = .ask exchange rest) (answer : ExchangeAnswer exchange) :
    request.toCommand handle.rate.code handle.flow.code = .ok exchange.command ∧
      ∃ result, rest answer = .done result ∧
        (result = .ok () → ∃ response data, answer = .ok response ∧
          response.toResult = .ok data) := by
  rcases run_order_cases handle request with ⟨cause, hfailed⟩ | ⟨command, hcommand, hasked⟩
  · cases hfailed.symm.trans horder
  · cases hasked.symm.trans horder
    refine ⟨hcommand, _, rfl, fun hok => ?_⟩
    obtain ⟨data, hdata, -⟩ := map_eq_ok_iff.1 hok
    obtain ⟨response, hresponse, hresult⟩ := bind_eq_ok_iff.1 hdata
    exact ⟨response, data, hresponse, hresult⟩

variable {S : SignatureScheme} {partner root : Authority S} {entropy : Bytes}

/-- The registration of a partner is two requests in a row. -/
theorem run_register_eq :
    (handle.register partner root entropy).run =
      (handle.order (.setPartnerKey (partner.credentialsFor handle.flow))).run.bind
        (ExceptT.bindCont fun _ => handle.order
          (.checkPartner (root.sign entropy (partner.credentialsFor handle.flow)))) :=
  rfl

/-- The registration of a partner does not succeed before anything is answered. -/
theorem run_register_ne_done_ok : (handle.register partner root entropy).run ≠ .done (.ok ()) := by
  rw [run_register_eq]
  intro hdone
  rcases run_order_cases handle (.setPartnerKey (partner.credentialsFor handle.flow)) with
    ⟨cause, hfailed⟩ | ⟨command, -, hasked⟩
  · rw [hfailed] at hdone
    cases hdone
  · rw [hasked] at hdone
    cases hdone

/-- Behind its first exchange, the registration of a partner is the request to check the partner,
unless it has failed. -/
theorem answer_of_run_register {exchange : Exchange}
    {rest : ExchangeAnswer exchange → Dialog ExchangeAnswer (Except Error Unit)}
    (hregister : (handle.register partner root entropy).run = .ask exchange rest)
    (answer : ExchangeAnswer exchange) :
    rest answer = (handle.order
        (.checkPartner (root.sign entropy (partner.credentialsFor handle.flow)))).run ∨
      ∃ cause, rest answer = .done (.error cause) := by
  rw [run_register_eq] at hregister
  rcases run_order_cases handle (.setPartnerKey (partner.credentialsFor handle.flow)) with
    ⟨cause, hfailed⟩ | ⟨command, -, hasked⟩
  · rw [hfailed] at hregister
    cases hregister
  · rw [hasked] at hregister
    cases hregister
    dsimp only [Dialog.bind]
    cases (answer >>= Response.toResult).map fun _ => () with
    | error cause => exact Or.inr ⟨cause, rfl⟩
    | ok _ => exact Or.inl rfl

end Handle

namespace Call

variable {S : SignatureScheme} {handle : Handle} {call : Call S}

/-- The request on which the success of a call depends: the only one, or the last one. -/
def lastRequest (handle : Handle) : Call S → Request
  | startTransaction => .startNewTransaction
  | setPartnerKey credentials => .setPartnerKey credentials
  | checkPartner signature => .checkPartner signature
  | checkPayoutAddress check => .checkPayoutAddress check
  | checkRefundAddress check => .checkRefundAddress check
  | register partner root entropy =>
    .checkPartner (root.sign entropy (partner.credentialsFor handle.flow))

/-- What can be left of a call after some of its exchanges: all of it, its last request, or a
failure. -/
inductive Leaves (handle : Handle) (call : Call S) :
    Dialog ExchangeAnswer (Except Error Unit) → Prop
  | all : Leaves handle call (call.client handle).run
  | last : Leaves handle call (handle.order (call.lastRequest handle)).run
  | failed (cause : Error) : Leaves handle call (.done (.error cause))

/-- The call ends well with this answer: it is the result of the last request. -/
structure Succeeds (handle : Handle) (call : Call S) (exchange : Exchange)
    (answer : Except Error Response) : Prop where
  toCommand : (call.lastRequest handle).toCommand handle.rate.code handle.flow.code =
    .ok exchange.command
  result : ∃ response data, answer = .ok response ∧ response.toResult = .ok data

/-- All of a call is a single request, but for the registration of a partner. -/
theorem run_client_eq (handle : Handle) (call : Call S) :
    (call.client handle).run = (handle.order (call.lastRequest handle)).run ∨
      ∃ partner root entropy, call = .register partner root entropy := by
  cases call with
  | register partner root entropy => exact Or.inr ⟨partner, root, entropy, rfl⟩
  | _ => exact Or.inl rfl

variable {exchange : Exchange}
  {rest : ExchangeAnswer exchange → Dialog ExchangeAnswer (Except Error Unit)}

/-- Whatever a caller is answered, what is left of the call is still of this kind, or the call has
ended well. -/
theorem Leaves.answer (hleaves : Leaves handle call (.ask exchange rest))
    (answer : ExchangeAnswer exchange) :
    Leaves handle call (rest answer) ∨
      rest answer = .done (.ok ()) ∧ Succeeds handle call exchange answer := by
  have horder (hlast : (handle.order (call.lastRequest handle)).run = .ask exchange rest) :
      Leaves handle call (rest answer) ∨
        rest answer = .done (.ok ()) ∧ Succeeds handle call exchange answer := by
    obtain ⟨hcommand, result, hresult, hgood⟩ := Handle.answer_of_run_order hlast answer
    rw [hresult]
    cases result with
    | error cause => exact Or.inl (.failed cause)
    | ok _ => exact Or.inr ⟨rfl, hcommand, hgood rfl⟩
  generalize hrest : Dialog.ask exchange rest = whole at hleaves
  cases hleaves with
  | failed cause => cases hrest
  | last => exact horder hrest.symm
  | all =>
    rcases run_client_eq handle call with hsingle | ⟨partner, root, entropy, rfl⟩
    · exact horder (hsingle.symm.trans hrest.symm)
    · left
      rcases Handle.answer_of_run_register hrest.symm answer with hcheck | ⟨cause, hfailed⟩
      · rw [hcheck]
        exact .last
      · rw [hfailed]
        exact .failed cause

/-- A call does not succeed before anything is answered. -/
theorem Leaves.ne_done_ok (hleaves : Leaves handle call (.done (.ok ()))) : False := by
  generalize hrest : Dialog.done (Except.ok ()) = whole at hleaves
  cases hleaves with
  | failed cause => cases hrest
  | last => exact Handle.run_order_ne_done_ok hrest.symm
  | all =>
    rcases run_client_eq handle call with hsingle | ⟨partner, root, entropy, rfl⟩
    · exact Handle.run_order_ne_done_ok (hsingle.symm.trans hrest.symm)
    · exact Handle.run_register_ne_done_ok hrest.symm

end Call

namespace Event

variable {S : SignatureScheme} {Caller : Type}

/-- If the call has ended well in this event, then the device has carried out its last request, in
the flow of the handle, and with nothing else between the device before and after. -/
def Carried (handle : Handle) (event : Event S Caller) : Prop :=
  event.result = some (.ok ()) →
    ∃ command draw data answer,
      (event.call.lastRequest handle).toCommand handle.rate.code handle.flow.code = .ok command ∧
      encode (event.call.lastRequest handle) = .ok data ∧
      event.turn = some ⟨command, (event.before.handle draw command).2⟩ ∧
      event.before.Carries draw handle.flow.code data (event.call.lastRequest handle).instruction
        event.after answer

end Event

namespace Sharing

variable {S : SignatureScheme} {Caller : Type} [DecidableEq Caller] {handle : Caller → Handle}
  {sharing : Sharing S Caller} {caller : Caller} {call : Call S}
  {rest : Dialog ExchangeAnswer (Except Error Unit)}

/-- Every call under way is one of the kind that a call can leave. -/
def InOrder (handle : Caller → Handle) (sharing : Sharing S Caller) : Prop :=
  ∀ caller pending, sharing.pending caller = some pending →
    pending.call.Leaves (handle caller) pending.rest

omit [DecidableEq Caller] in
theorem inOrder_atRest (handle : Caller → Handle) (device : Device S) :
    (atRest device).InOrder handle := by
  intro caller pending hpending
  cases hpending

/-- Nothing is left under way but what was before, and the rest of the call that goes on. -/
theorem InOrder.proceed (horder : sharing.InOrder handle)
    (hrest : ∀ exchange next, rest = .ask exchange next → call.Leaves (handle caller) rest)
    (next : Device S) (turn : Option Turn) :
    (sharing.proceed caller call rest next turn).1.InOrder handle := by
  intro other pending hpending
  cases rest with
  | done result =>
    dsimp only [Sharing.proceed] at hpending
    split at hpending
    · cases hpending
    · exact horder other pending hpending
  | ask exchange rest =>
    dsimp only [Sharing.proceed] at hpending
    split at hpending
    · next hcaller =>
      cases hpending
      rw [hcaller]
      exact hrest exchange rest rfl
    · exact horder other pending hpending

theorem device_proceed (sharing : Sharing S Caller) (caller : Caller) (call : Call S)
    (rest : Dialog ExchangeAnswer (Except Error Unit)) (next : Device S) (turn : Option Turn) :
    (sharing.proceed caller call rest next turn).1.device = next := by
  cases rest <;> rfl

/-- A call that goes on ends well only if nothing is left of it but success. -/
theorem event_proceed (sharing : Sharing S Caller) (caller : Caller) (call : Call S)
    (rest : Dialog ExchangeAnswer (Except Error Unit)) (next : Device S) (turn : Option Turn) :
    ∃ result, (sharing.proceed caller call rest next turn).2 =
        ⟨caller, call, sharing.device, turn, next, result⟩ ∧
      (result = some (.ok ()) → rest = .done (.ok ())) := by
  cases rest with
  | done result =>
    refine ⟨_, rfl, fun hok => ?_⟩
    rw [Option.some.inj hok]
  | ask exchange rest =>
    refine ⟨_, rfl, fun hok => ?_⟩
    cases hok

theorem config_exchange (device : Device S) (command : Bytes) (fate : Fate) :
    (device.exchange command fate).1.config = device.config := by
  cases fate with
  | answered draw | lost draw cause =>
    exact Device.config_eq_of_handles (Device.handles_handle device draw command)
  | unsent cause => rfl

/-- A caller that learns a response has had its command handled. -/
theorem exists_handle_of_exchange {device : Device S} {command : Bytes} {fate : Fate}
    {response : Response} (hanswer : (device.exchange command fate).2.2 = .ok response) :
    ∃ draw, (device.exchange command fate).1 = (device.handle draw command).1 ∧
      (device.exchange command fate).2.1 = some ⟨command, (device.handle draw command).2⟩ ∧
      response = (device.handle draw command).2.toResponse := by
  cases fate with
  | answered draw =>
    cases hanswer
    exact ⟨draw, rfl, rfl, rfl⟩
  | lost draw cause => cases hanswer
  | unsent cause => cases hanswer

/-- What a move keeps, and what it says about its event. -/
structure Sound (handle : Caller → Handle) (sharing next : Sharing S Caller)
    (event : Option (Event S Caller)) : Prop where
  inOrder : next.InOrder handle
  config : next.device.config = sharing.device.config
  before : ∀ happened ∈ event, happened.before = sharing.device
  carried : ∀ happened ∈ event, happened.Carried (handle happened.caller)

/-- A call that is made does not end well at once, and is under way in order. -/
theorem sound_call (horder : sharing.InOrder handle) (caller : Caller) (call : Call S) :
    sharing.Sound handle
      (sharing.proceed caller call (call.client (handle caller)).run sharing.device none).1
      (sharing.proceed caller call (call.client (handle caller)).run sharing.device none).2 := by
  have hall : call.Leaves (handle caller) (call.client (handle caller)).run := .all
  obtain ⟨result, hevent, hok⟩ := sharing.event_proceed caller call
    (call.client (handle caller)).run sharing.device none
  refine ⟨horder.proceed (fun _ _ _ => hall) _ _, ?_, ?_, ?_⟩
  · rw [device_proceed]
  · rw [hevent]
    rintro _ ⟨⟩
    rfl
  · rw [hevent]
    rintro _ ⟨⟩ hgood
    rw [hok hgood] at hall
    exact hall.ne_done_ok.elim

/-- A call that goes on after an exchange is still in order, and has ended well only if the device
has carried out its last request. -/
theorem sound_exchange (horder : sharing.InOrder handle) {exchange : Exchange}
    {rest : ExchangeAnswer exchange → Dialog ExchangeAnswer (Except Error Unit)}
    (hpending : sharing.pending caller = some ⟨call, .ask exchange rest⟩) (fate : Fate) :
    let outcome := sharing.device.exchange exchange.command fate
    sharing.Sound handle
      (sharing.proceed caller call (rest outcome.2.2) outcome.1 outcome.2.1).1
      (sharing.proceed caller call (rest outcome.2.2) outcome.1 outcome.2.1).2 := by
  intro outcome
  have hleaves := (horder caller _ hpending).answer outcome.2.2
  obtain ⟨result, hevent, hok⟩ := sharing.event_proceed caller call (rest outcome.2.2) outcome.1
    outcome.2.1
  refine ⟨horder.proceed ?_ _ _, ?_, ?_, ?_⟩
  · intro exchange' next hask
    rcases hleaves with hleaves | ⟨hdone, -⟩
    · exact hleaves
    · rw [hdone] at hask
      cases hask
  · rw [device_proceed]
    exact config_exchange _ _ _
  · rw [hevent]
    rintro _ ⟨⟩
    rfl
  · rw [hevent]
    rintro _ ⟨⟩ hgood
    rcases hleaves with hleaves | ⟨-, hsucceeds⟩
    · rw [hok hgood] at hleaves
      exact hleaves.ne_done_ok.elim
    · obtain ⟨response, answer, hanswer, hresult⟩ := hsucceeds.result
      obtain ⟨draw, hnext, hturn, rfl⟩ := exists_handle_of_exchange hanswer
      obtain ⟨data, hdata, hcarries⟩ :=
        Device.exists_carries_of_toResult hsucceeds.toCommand hresult
      rw [← hnext] at hcarries
      exact ⟨_, draw, data, answer, hsucceeds.toCommand, hdata, hturn, hcarries⟩

omit [DecidableEq Caller] in
theorem sound_nothing (horder : sharing.InOrder handle) : sharing.Sound handle sharing none := by
  refine ⟨horder, rfl, ?_, ?_⟩ <;> intro happened hnone <;> cases hnone

theorem sound_move (horder : sharing.InOrder handle) (caller : Caller) (move : Move S) :
    sharing.Sound handle (sharing.move handle caller move).1
      (sharing.move handle caller move).2 := by
  cases hpending : sharing.pending caller with
  | none =>
    cases move with
    | call call =>
      simp only [Sharing.move, hpending]
      exact sound_call horder caller call
    | exchange fate =>
      simp only [Sharing.move, hpending]
      exact sound_nothing horder
  | some pending =>
    obtain ⟨call, rest⟩ := pending
    cases move with
    | call call =>
      simp only [Sharing.move, hpending]
      exact sound_nothing horder
    | exchange fate =>
      cases rest with
      | done result =>
        simp only [Sharing.move, hpending]
        exact sound_nothing horder
      | ask exchange rest =>
        simp only [Sharing.move, hpending]
        exact sound_exchange horder hpending fate

/-- In every interleaving, a call that ends well has had its last request carried out by the device,
which trusts the same root all the time. -/
theorem carried_of_mem_run (horder : sharing.InOrder handle) (moves : List (Caller × Move S)) :
    ∀ event ∈ (sharing.run handle moves).2,
      event.before.config = sharing.device.config ∧ event.Carried (handle event.caller) := by
  induction moves generalizing sharing with
  | nil =>
    intro event hevent
    cases hevent
  | cons step moves ih =>
    obtain ⟨caller, move⟩ := step
    have hsound := sound_move horder caller move
    intro event hevent
    rcases List.mem_append.1 hevent with hfirst | hrest
    · have hhappened := Option.mem_toList.1 hfirst
      rw [hsound.before event hhappened]
      exact ⟨rfl, hsound.carried event hhappened⟩
    · rw [← hsound.config]
      exact ih hsound.inOrder event hrest

end Sharing

end Countersign

/-
# A client and a device over a stream

A connection has a transport at one end and a service at the other. What either end writes is cut
into pieces and delivered to the other one, and nothing else is. For the client this makes no
difference to having the device at hand: it gets the answers that the device would give to the
same commands, and leaves the device as these commands would leave it.

The only commands that a connection does not carry are those that are longer than any command of
the device. The first one ends the service before the device gets to see it, and so the transport
fails.
-/

import Countersign.Proofs.Device.Service
import Countersign.Proofs.Stream.Client
import Countersign.Signature.Ecdsa

namespace Countersign

open Countersign.Stream

/-- What a transport writes for a command when nothing arrives. -/
def Transport.planned (command : Bytes) (timeout : Nat) (transport : Transport) : Bytes :=
  (transport.exchange command timeout).2.stream.written.drop transport.stream.written.length

/-- How one exchange is carried between the two ends. Either direction may be cut anywhere and
delayed, as long as the whole answer arrives in time. A service that has ended sends nothing: its
client finds the stream closed, failed or silent. -/
structure Carriage where
  /-- How long the client waits, in milliseconds. -/
  timeout : Nat
  request : (bytes : Bytes) → Delivery bytes
  reply : (bytes : Bytes) → Delivery bytes
  prompt : ∀ bytes, (reply bytes).wait ≤ timeout
  ending : List PeerEvent
  nothing : brought ending = []

/-- A command and how it is carried. -/
structure Order where
  command : Bytes
  carriage : Carriage

/-- A client and a device, with a stream between them. -/
structure Connection (S : SignatureScheme) where
  client : Transport
  service : Service S
  /-- How serving has ended; a service that waits has not. -/
  ended : ServiceEnd := .waiting
  /-- Everything that was delivered to the service. -/
  delivered : List PeerEvent := []

namespace Connection

variable {S : SignatureScheme} (draws : Nat → Draw)

/-- The service goes on with what is delivered, unless it has ended. -/
def serveOn (events : List PeerEvent) (connection : Connection S) : ServiceEnd × Service S :=
  if connection.ended = .waiting then (connection.service.receive events).serve draws
  else (connection.ended, connection.service)

/-- One exchange: what the client writes is delivered to the service, and what the service writes
then is delivered to the client. -/
def exchange (order : Order) (connection : Connection S) :
    Except Error Response × Connection S :=
  let sent := connection.client.planned order.command order.carriage.timeout
  let requests := (order.carriage.request sent).events
  let (ended, service) := connection.serveOn draws requests
  let replied := service.stream.written.drop connection.service.stream.written.length
  let ending := if ended = .waiting then [] else order.carriage.ending
  let arrivals := (order.carriage.reply replied).events ++ ending
  let (answer, client) :=
    (connection.client.arrive arrivals).exchange order.command order.carriage.timeout
  (answer, { client, service, ended, delivered := connection.delivered ++ requests })

/-- Commands issued one by one: the answer to each of them, and the connection after them. -/
def converse (connection : Connection S) :
    List Order → List (Except Error Response) × Connection S
  | [] => ([], connection)
  | order :: orders =>
    let (answer, next) := connection.exchange draws order
    let (answers, last) := next.converse orders
    (answer :: answers, last)

/-- Both ends stand between two frames, and the service is still serving. -/
structure AtRest (connection : Connection S) : Prop where
  client : connection.client.AtRest
  service : connection.service.AtRest
  serving : connection.ended = .waiting

/-- The commands as the device gets them, each with the draw that the service has for it. -/
def inputs (handled : Nat) : List Bytes → List (Draw × Bytes)
  | [] => []
  | command :: commands => (draws handled, command) :: inputs (handled + 1) commands

/-- The device without any stream: the commands are handled one after the other, with the same
draws. -/
def plainRun (orders : List Order) (connection : Connection S) : Device S × List Turn :=
  connection.service.device.run
    (inputs draws connection.service.handled (orders.map Order.command))

/-- The answers of a device, as they are when an exchange brings them. -/
def answersOf (turns : List Turn) : List (Except Error Response) :=
  turns.map fun turn => .ok turn.reply.toResponse

/-- Since the first connection, the service has got exactly what the client has written. One run of
`serve` over all of it, together with whatever comes next, would stand where the service stands. -/
def Carried (first last : Connection S) : Prop :=
  ∃ delivered, last.delivered = first.delivered ++ delivered ∧
    last.client.stream.written = first.client.stream.written ++ brought delivered ∧
    ∀ more, (first.service.receive (delivered ++ more)).serve draws =
      (last.service.receive more).serve draws

/-- Since the first connection, the service has got exactly what the client has written, and one run
of `serve` over all of it has this outcome. -/
def Served (first last : Connection S) : Prop :=
  ∃ delivered, last.delivered = first.delivered ++ delivered ∧
    last.client.stream.written = first.client.stream.written ++ brought delivered ∧
    (first.service.receive delivered).serve draws = (last.ended, last.service)

variable {draws}

theorem planned_eq {transport : Transport} (hrest : transport.AtRest) {command frame : Bytes}
    (hframe : Frame.ofRequest command = .ok frame) (timeout : Nat) :
    transport.planned command timeout = frame := by
  rw [Transport.planned,
    Transport.written_exchange_of_steady timeout hrest.working hrest.steady hframe,
    List.drop_left]

/-- What one exchange does, from what either end does. -/
theorem exchange_eq {connection : Connection S} {order : Order} {sent replied : Bytes}
    {ended : ServiceEnd} {service : Service S} {answer : Except Error Response}
    {client : Transport}
    (hsent : connection.client.planned order.command order.carriage.timeout = sent)
    (hserve : connection.serveOn draws (order.carriage.request sent).events = (ended, service))
    (hreplied : service.stream.written = connection.service.stream.written ++ replied)
    (hclient : (connection.client.arrive ((order.carriage.reply replied).events ++
        if ended = .waiting then [] else order.carriage.ending)).exchange order.command
      order.carriage.timeout = (answer, client)) :
    connection.exchange draws order =
      (answer, ⟨client, service, ended,
        connection.delivered ++ (order.carriage.request sent).events⟩) := by
  subst hsent
  have hdrop : service.stream.written.drop connection.service.stream.written.length = replied := by
    rw [hreplied, List.drop_left]
  subst hdrop
  unfold exchange
  dsimp only
  rw [hserve]
  dsimp only
  rw [hclient]

theorem Carried.refl (connection : Connection S) : Carried draws connection connection :=
  ⟨[], (List.append_nil _).symm, (List.append_nil _).symm, fun _ => rfl⟩

theorem Carried.trans {first middle last : Connection S} (hfirst : Carried draws first middle)
    (hlast : Carried draws middle last) : Carried draws first last := by
  obtain ⟨earlier, hearlier, hwritten, hresumes⟩ := hfirst
  obtain ⟨later, hlater, hwritten', hresumes'⟩ := hlast
  refine ⟨earlier ++ later, ?_, ?_, ?_⟩
  · rw [hlater, hearlier, List.append_assoc]
  · rw [hwritten', hwritten, brought_append, List.append_assoc]
  · intro more
    rw [List.append_assoc, hresumes, hresumes']

theorem Carried.trans_served {first middle last : Connection S}
    (hfirst : Carried draws first middle) (hlast : Served draws middle last) :
    Served draws first last := by
  obtain ⟨earlier, hearlier, hwritten, hresumes⟩ := hfirst
  obtain ⟨later, hlater, hwritten', hserve⟩ := hlast
  refine ⟨earlier ++ later, ?_, ?_, (hresumes later).trans hserve⟩
  · rw [hlater, hearlier, List.append_assoc]
  · rw [hwritten', hwritten, brought_append, List.append_assoc]

/-- While it is at rest, a service stands where it would stand without any interruption. -/
theorem AtRest.served {connection : Connection S} (hrest : connection.AtRest) :
    Served draws connection connection := by
  refine ⟨[], (List.append_nil _).symm, (List.append_nil _).symm, ?_⟩
  rw [Service.receive_nil, hrest.service.serve_eq, hrest.serving]

variable (draws)

/-- One command is answered as the device answers it. -/
theorem exchange_of_short {connection : Connection S} (hrest : connection.AtRest) (order : Order)
    (hshort : order.command.length ≤ Frame.maxRequest) :
    ∃ next,
      connection.exchange draws order =
          (.ok (connection.service.device.handle (draws connection.service.handled)
            order.command).2.toResponse, next) ∧
        next.AtRest ∧
        next.service.device = (connection.service.device.handle
          (draws connection.service.handled) order.command).1 ∧
        next.service.handled = connection.service.handled + 1 ∧ Carried draws connection next := by
  have hframe := (Frame.ofRequest_eq_ok_iff order.command _).2
    ⟨Nat.lt_of_le_of_lt hshort (by decide), rfl⟩
  generalize BigEndian.fixed Frame.headerLength order.command.length ++ order.command = frame
    at hframe
  have hplanned := planned_eq hrest.client hframe order.carriage.timeout
  obtain ⟨service, hserves⟩ := Service.exists_serves draws hrest.service hframe hshort
    (order.carriage.request frame)
  have hserve : connection.serveOn draws (order.carriage.request frame).events =
      (.waiting, service) := by
    rw [serveOn, if_pos hrest.serving, hserves.serve_eq]
  have hwritten := hserves.written
  generalize hhandle : connection.service.device.handle (draws connection.service.handled)
    order.command = outcome at hwritten
  obtain ⟨device, reply⟩ := outcome
  have hbound : reply.toResponse.data.length ≤ Frame.maxResponseData := by
    have hle := connection.service.device.length_handle_data_le
      (draws connection.service.handled) order.command
    rw [hhandle] at hle
    exact Nat.le_trans hle (by decide)
  obtain ⟨client, hclient, hidle, hsent⟩ := Transport.exchange_of_delivery hrest.client hframe
    hbound (order.carriage.reply (Frame.ofResponse reply.toResponse)) (order.carriage.prompt _)
  refine ⟨_, exchange_eq hplanned hserve hwritten ?_, ⟨hidle, hserves.rest, rfl⟩, ?_,
    hserves.handled, ⟨_, rfl, ?_, hserves.resumes⟩⟩
  · rw [if_pos rfl, List.append_nil]
    exact hclient
  · exact hserves.device.trans (congrArg Prod.fst hhandle)
  · rw [(order.carriage.request frame).arrives.brought_eq]
    exact hsent

theorem converse_of_short {connection : Connection S} (hrest : connection.AtRest)
    {orders : List Order} (hshort : ∀ order ∈ orders, order.command.length ≤ Frame.maxRequest) :
    ∃ last,
      connection.converse draws orders =
          (answersOf (connection.plainRun draws orders).2, last) ∧
        last.AtRest ∧ last.service.device = (connection.plainRun draws orders).1 ∧
        last.service.handled = connection.service.handled + orders.length ∧
        Carried draws connection last := by
  induction orders generalizing connection with
  | nil => exact ⟨connection, rfl, hrest, rfl, rfl, .refl connection⟩
  | cons order orders ih =>
    obtain ⟨next, hexchange, hnext, hdevice, hhandled, hcarried⟩ :=
      exchange_of_short draws hrest order (hshort order List.mem_cons_self)
    obtain ⟨last, hconverse, hlast, hdevice', hhandled', hcarried'⟩ :=
      ih hnext fun later hlater => hshort later (List.mem_cons_of_mem order hlater)
    rw [plainRun, hdevice, hhandled] at hconverse hdevice'
    refine ⟨last, ?_, hlast, hdevice', ?_, hcarried.trans hcarried'⟩
    · rw [converse, hexchange]
      simp only [hconverse]
      rfl
    · rw [hhandled', hhandled, List.length_cons]
      omega

/-- A command that is longer than any command of the device is never handled. It ends the service,
and the exchange fails for good. -/
theorem exchange_of_long {connection : Connection S} (hrest : connection.AtRest) (order : Order)
    (hlong : Frame.maxRequest < order.command.length)
    (hfits : order.command.length < 2 ^ 32) :
    ∃ failure next, connection.exchange draws order = (.error failure, next) ∧
      next.client.failed = true ∧ next.ended = .failed .unexpectedResponse ∧
      next.service.device = connection.service.device ∧
      next.service.handled = connection.service.handled ∧ Served draws connection next := by
  have hframe := (Frame.ofRequest_eq_ok_iff order.command _).2 ⟨hfits, rfl⟩
  generalize BigEndian.fixed Frame.headerLength order.command.length ++ order.command = frame
    at hframe
  have hplanned := planned_eq hrest.client hframe order.carriage.timeout
  obtain ⟨service, hoverrun, hdevice, hhandled, hsilent⟩ := Service.exists_serve_of_overrun draws
    hrest.service hframe hlong (order.carriage.request frame)
  have hserve : connection.serveOn draws (order.carriage.request frame).events =
      (.failed .unexpectedResponse, service) := by
    rw [serveOn, if_pos hrest.serving, hoverrun]
  have hreplied : service.stream.written = connection.service.stream.written ++ [] := by
    rw [hsilent, List.append_nil]
  have hnothing : brought ((order.carriage.reply []).events ++ order.carriage.ending) = [] := by
    rw [brought_append, (order.carriage.reply []).arrives.brought_eq, order.carriage.nothing]
    rfl
  obtain ⟨failure, client, hclient, hfailed, hsent⟩ := Transport.exchange_of_nothing hrest.client
    hframe hnothing order.carriage.timeout
  have hexchange := exchange_eq hplanned hserve hreplied hclient
  refine ⟨failure, _, hexchange, hfailed, rfl, hdevice, hhandled, ⟨_, rfl, ?_, hoverrun⟩⟩
  rw [(order.carriage.request frame).arrives.brought_eq]
  exact hsent

/-- Once the service has ended and the transport has failed, nothing is exchanged any more. -/
theorem converse_of_ended {connection : Connection S} (hfailed : connection.client.failed = true)
    (hended : connection.ended ≠ .waiting) (orders : List Order) :
    ∃ client,
      connection.converse draws orders =
          (List.replicate orders.length (.error .transportFailed), { connection with client }) ∧
        client.failed = true ∧ client.stream.written = connection.client.stream.written := by
  induction orders generalizing connection with
  | nil => exact ⟨connection.client, rfl, hfailed, rfl⟩
  | cons order orders ih =>
    have hplanned : connection.client.planned order.command order.carriage.timeout = [] := by
      rw [Transport.planned, Transport.exchange_of_failed hfailed, List.drop_length]
    have hserve : connection.serveOn draws (order.carriage.request []).events =
        (connection.ended, connection.service) := by
      rw [serveOn, if_neg hended]
    have hstill : (connection.client.arrive ((order.carriage.reply []).events ++
        if connection.ended = .waiting then [] else order.carriage.ending)).failed = true := hfailed
    have hexchange := exchange_eq hplanned hserve (List.append_nil _).symm
      (Transport.exchange_of_failed hstill _ _)
    rw [(order.carriage.request []).arrives.eq_nil, List.append_nil] at hexchange
    obtain ⟨client, hconverse, hclient, hwritten⟩ :=
      @ih { connection with client := connection.client.arrive _ } hstill hended
    refine ⟨client, ?_, hclient, hwritten⟩
    rw [converse, hexchange]
    simp only [hconverse]
    rfl

theorem converse_append (connection : Connection S) (earlier later : List Order) :
    connection.converse draws (earlier ++ later) =
      ((connection.converse draws earlier).1 ++
          ((connection.converse draws earlier).2.converse draws later).1,
        ((connection.converse draws earlier).2.converse draws later).2) := by
  induction earlier generalizing connection with
  | nil => rfl
  | cons order earlier ih =>
    rw [List.cons_append, converse, converse]
    simp only [ih]
    rfl

/-- A command that no frame can hold is not sent, and changes nothing. -/
theorem exchange_of_unsendable {connection : Connection S} (hrest : connection.AtRest)
    (order : Order) (hlong : 2 ^ 32 ≤ order.command.length) :
    connection.exchange draws order =
      (.error (.wire (.elementTooLong order.command.length)), connection) := by
  have hframe : Frame.ofRequest order.command =
      .error (.wire (.elementTooLong order.command.length)) := by
    have hover : ¬order.command.length < BigEndian.capacity Frame.headerLength :=
      Nat.not_lt.2 hlong
    rw [Frame.ofRequest, if_neg hover]
  have hclient : connection.client.exchange order.command order.carriage.timeout =
      (.error (.wire (.elementTooLong order.command.length)), connection.client) := by
    rw [Transport.exchange, hrest.client.working, hframe]
    rfl
  have hplanned : connection.client.planned order.command order.carriage.timeout = [] := by
    rw [Transport.planned, hclient, List.drop_length]
  have hserve : connection.serveOn draws (order.carriage.request []).events =
      (.waiting, connection.service) := by
    rw [serveOn, if_pos hrest.serving, (order.carriage.request []).arrives.eq_nil,
      Service.receive_nil, hrest.service.serve_eq]
  have hsame : connection.client.arrive ((order.carriage.reply []).events ++
      if ServiceEnd.waiting = .waiting then [] else order.carriage.ending) =
        connection.client := by
    rw [(order.carriage.reply []).arrives.eq_nil, if_pos rfl, List.append_nil, Transport.arrive,
      Stream.receive, List.append_nil]
  have hexchange := exchange_eq hplanned hserve (List.append_nil _).symm (by rw [hsame, hclient])
  rw [(order.carriage.request []).arrives.eq_nil, List.append_nil, ← hrest.serving] at hexchange
  exact hexchange

/-- A client gets exactly the answers that the device gives to its commands, and the device ends up
as if it had handled them without a stream; all the while the service does not end. The first
command that is longer than any command of the device ends the service: the device stays as it is,
that exchange fails, and the transport with it. A command that no frame can hold is not sent. -/
theorem converse_refines (draws : Nat → Draw) {first : Connection S} (hrest : first.AtRest) :
    (∀ orders : List Order, (∀ order ∈ orders, order.command.length ≤ Frame.maxRequest) →
      ∃ last, first.converse draws orders = (answersOf (first.plainRun draws orders).2, last) ∧
        last.service.device = (first.plainRun draws orders).1 ∧
        last.ended = .waiting ∧ last.client.failed = false ∧ Served draws first last) ∧
    (∀ (before : List Order) (long : Order) (after : List Order),
      (∀ order ∈ before, order.command.length ≤ Frame.maxRequest) →
      Frame.maxRequest < long.command.length → long.command.length < 2 ^ 32 →
      ∃ failure last,
        first.converse draws (before ++ long :: after) =
            (answersOf (first.plainRun draws before).2 ++
              .error failure :: List.replicate after.length (.error .transportFailed), last) ∧
          last.service.device = (first.plainRun draws before).1 ∧
          last.service.handled = first.service.handled + before.length ∧
          last.ended = .failed .unexpectedResponse ∧ last.client.failed = true ∧
          Served draws first last) ∧
    ∀ order : Order, 2 ^ 32 ≤ order.command.length →
      first.exchange draws order =
        (.error (.wire (.elementTooLong order.command.length)), first) := by
  refine ⟨?_, ?_, fun order hlong => exchange_of_unsendable draws hrest order hlong⟩
  · intro orders hshort
    obtain ⟨last, hconverse, hlast, hdevice, -, hcarried⟩ :=
      converse_of_short draws hrest hshort
    exact ⟨last, hconverse, hdevice, hlast.serving, hlast.client.working,
      hcarried.trans_served hlast.served⟩
  · intro before long after hshort hlong hfits
    obtain ⟨middle, hbefore, hmiddle, hdevice, hhandled, hcarried⟩ :=
      converse_of_short draws hrest hshort
    obtain ⟨failure, stopped, hexchange, hfailed, hended, hdevice', hhandled', hserved⟩ :=
      exchange_of_long draws hmiddle long hlong hfits
    have hover : stopped.ended ≠ .waiting := by
      rw [hended]
      decide
    obtain ⟨client, hafter, hclient, hwritten⟩ := converse_of_ended draws hfailed hover
      after
    refine ⟨failure, { stopped with client }, ?_, hdevice'.trans hdevice, hhandled'.trans hhandled,
      hended, hclient, hcarried.trans_served ?_⟩
    · rw [converse_append, hbefore]
      simp only [converse, hexchange, hafter]
    · obtain ⟨delivered, hdelivered, hsent, hserve⟩ := hserved
      exact ⟨delivered, hdelivered, hwritten.trans hsent, hserve⟩

theorem arrives_bytewise (bytes : Bytes) :
    Arrives (bytes.map fun byte => .data [byte]) bytes 0 := by
  induction bytes with
  | nil => exact .nothing
  | cons byte bytes ih => exact .piece ih

/-- Every byte arrives for itself, in both directions. A service that has ended closes its side. -/
def sampleCarriage : Carriage where
  timeout := 0
  request bytes := ⟨_, 0, arrives_bytewise bytes⟩
  reply bytes := ⟨_, 0, arrives_bytewise bytes⟩
  prompt _ := Nat.le_refl 0
  ending := [.close]
  nothing := rfl

/-- A client that writes one byte at a time, and a device on which nothing was started. -/
def sampleConnection : Connection Ecdsa.scheme where
  client := { stream := { incoming := [], pieceLimit := some 1 } }
  service := {
    device := Device.new ⟨⟨4, 0, 0⟩, (⟨.secp256k1, 0, 0⟩ : Ecdsa.PublicKey), none⟩ default
    stream := { incoming := [] } }

/-- The empty command, and then the one that asks for the version. -/
def sampleOrders : List Order :=
  [⟨[], sampleCarriage⟩, ⟨[0xe0, 0x02, 0, 0, 0], sampleCarriage⟩]

/-- A command that is one byte too long for the device. -/
def sampleOverrun : Order :=
  ⟨List.replicate 261 0, sampleCarriage⟩

/-- The device refuses the empty command and tells its version. One byte too many ends the service
after that. -/
theorem converse_refines_sample :
    sampleConnection.AtRest ∧
      (∃ last, sampleConnection.converse (fun _ => ⟨0, fun _ => 0, fun _ => 0⟩) sampleOrders =
          ([.ok ⟨[], 0x6a80⟩, .ok ⟨[4, 0, 0], 0x9000⟩], last) ∧ last.ended = .waiting) ∧
      ∃ failure last,
        sampleConnection.converse (fun _ => ⟨0, fun _ => 0, fun _ => 0⟩)
            (sampleOrders ++ sampleOverrun :: sampleOrders) =
          ([.ok ⟨[], 0x6a80⟩, .ok ⟨[4, 0, 0], 0x9000⟩, .error failure,
            .error .transportFailed, .error .transportFailed], last) ∧
          last.client.failed = true := by
  have hrest : sampleConnection.AtRest := by
    refine ⟨⟨rfl, ⟨by decide, rfl, rfl, ?_⟩, rfl⟩, ⟨⟨by decide, rfl, rfl, ?_⟩, rfl⟩, rfl⟩
    all_goals
      intro pause hpause
      cases hpause
  have hshort : ∀ order ∈ sampleOrders, order.command.length ≤ Frame.maxRequest := by decide
  have hlength : sampleOverrun.command.length = 261 := List.length_replicate
  obtain ⟨hserved, hoverrun, -⟩ := converse_refines (fun _ => ⟨0, fun _ => 0, fun _ => 0⟩) hrest
  obtain ⟨last, hconverse, -, hended, -⟩ := hserved sampleOrders hshort
  obtain ⟨failure, stopped, hstopped, -, -, -, hfailed, -⟩ :=
    hoverrun sampleOrders sampleOverrun sampleOrders hshort (by rw [hlength]; decide)
      (by rw [hlength]; decide)
  exact ⟨hrest, ⟨last, hconverse, hended⟩, failure, stopped, hstopped, hfailed⟩

end Connection

end Countersign

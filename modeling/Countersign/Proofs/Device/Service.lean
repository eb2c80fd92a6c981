/-
# Serving a frame

A service that stands between two frames takes the next command from the bytes that arrive,
whatever pieces they come in, writes the frame of the answer and stands between two frames again.
Serving what has arrived and going on later is the same as serving everything at once: a service
that waits is one loop that has not ended.
-/

import Countersign.Device.Server
import Countersign.Proofs.Device.Run
import Countersign.Proofs.Stream.Framing
import Countersign.Proofs.Stream.Steadiness

namespace Countersign

/-- No id of a transaction is longer than a random one. -/
theorem Draw.length_transactionId_le (draw : Draw) (flow : Flow) :
    (draw.transactionId flow).length ≤ 32 := by
  cases flow <;>
    simp only [transactionId, printableId, nonceId, List.length_map, List.length_range] <;> decide

/-- No answer of a device has more data than the id of a transaction. -/
theorem Device.length_handle_data_le {S : SignatureScheme} (device : Device S) (draw : Draw)
    (bytes : Bytes) : (device.handle draw bytes).2.data.length ≤ 32 := by
  have hhandles := handles_handle device draw bytes
  generalize (device.handle draw bytes).1 = next at hhandles
  cases hhandles with
  | refused hdeed hempty hread =>
    rw [show (device.handle draw bytes).2.data = [] from hempty]
    exact Nat.zero_le _
  | unread hdeed hempty hread =>
    rw [show (device.handle draw bytes).2.data = [] from hempty]
    exact Nat.zero_le _
  | @carried instruction p2 data answer next hdeed hanswer hcarries =>
    rw [show (device.handle draw bytes).2.data = answer from hanswer]
    cases hcarries with
    | version => exact Nat.le_of_ble_eq_true rfl
    | start => exact draw.length_transactionId_le _
    | challenge =>
      rw [Challenge.toBytes, BigEndian.length_fixed]
      decide
    | _ => exact Nat.zero_le _

namespace Service

open BigEndian Countersign.Stream

variable {S : SignatureScheme} {draws : Nat → Draw}

/-- The service whose client sends more. -/
def receive (more : List PeerEvent) (service : Service S) : Service S :=
  { service with stream := service.stream.receive more }

theorem receive_nil (service : Service S) : service.receive [] = service := by
  rw [receive, Stream.receive, List.append_nil]

/-- The service stands between two frames, and its stream is in order. -/
structure AtRest (service : Service S) : Prop where
  steady : service.stream.Steady
  silent : service.stream.incoming = []

/-- A command that arrives is read, and what comes after it still arrives. -/
theorem readCommand_of_arrives {stream : Stream} {command frame rest : Bytes} {wait : Nat}
    (hframe : Frame.ofRequest command = .ok frame)
    (hshort : command.length ≤ Frame.maxRequest)
    (harrives : Arrives stream.incoming (frame ++ rest) wait) :
    ∃ clock incoming wait',
      readCommand stream = (.ok command, { stream with clock, incoming }) ∧
        Arrives incoming rest wait' := by
  obtain ⟨hcapacity, rfl⟩ := (Frame.ofRequest_eq_ok_iff command frame).1 hframe
  rw [List.append_assoc] at harrives
  obtain ⟨clock, incoming, wait', hheader, harrives, -⟩ :=
    readExactly_of_arrives harrives (le_of_mem_none _)
  have hbody : Arrives { stream with clock, incoming }.incoming (command ++ rest) wait' := harrives
  obtain ⟨clock', incoming', wait'', hread, hrest, -⟩ :=
    readExactly_of_arrives hbody (le_of_mem_none _)
  rw [length_fixed] at hheader
  refine ⟨clock', incoming', wait'', ?_, hrest⟩
  rw [readCommand, hheader]
  simp only [value_fixed_of_lt hcapacity, Nat.not_lt.2 hshort, if_false, hread]

/-- A command that is too long ends the service before anything after the header is read. -/
theorem readCommand_of_overrun {stream : Stream} {command frame : Bytes} {wait : Nat}
    (hframe : Frame.ofRequest command = .ok frame)
    (hlong : Frame.maxRequest < command.length)
    (harrives : Arrives stream.incoming frame wait) :
    ∃ clock incoming,
      readCommand stream =
        (.error (.failed .unexpectedResponse), { stream with clock, incoming }) := by
  obtain ⟨hcapacity, rfl⟩ := (Frame.ofRequest_eq_ok_iff command frame).1 hframe
  obtain ⟨clock, incoming, wait', hheader, -, -⟩ :=
    readExactly_of_arrives harrives (le_of_mem_none _)
  rw [length_fixed] at hheader
  refine ⟨clock, incoming, ?_⟩
  rw [readCommand, hheader]
  simp only [value_fixed_of_lt hcapacity, if_pos hlong]

/-- When nothing arrives, a service waits for the next header. -/
theorem readCommand_of_silent {stream : Stream} (hsilent : stream.incoming = []) :
    readCommand stream = (.error .waiting, stream) := by
  have hread : stream.readExactly none Frame.headerLength = (.error .requestTimeout, stream) := by
    rw [readExactly, readMore, if_pos (by decide), Stream.read, hsilent]
    cases stream
    cases hsilent
    rfl
  rw [readCommand, hread]
  rfl

theorem readCommand_receive {stream next : Stream} {command : Bytes} (more : List PeerEvent)
    (hread : readCommand stream = (.ok command, next)) :
    readCommand (stream.receive more) = (.ok command, next.receive more) := by
  unfold readCommand at hread ⊢
  split at hread
  · cases hread
  · next header middle hheader =>
    have hheader' : (stream.receive more).readExactly none Frame.headerLength =
        (.ok header, middle.receive more) := readMore_receive more hheader
    rw [hheader']
    by_cases hlong : Frame.maxRequest < value header
    · simp only [hlong, if_true] at hread
      cases hread
    · simp only [hlong, if_false] at hread ⊢
      split at hread
      · cases hread
      · next body after hbody =>
        cases hread
        have hbody' : (middle.receive more).readExactly none (value header) =
            (.ok command, next.receive more) := readMore_receive more hbody
        rw [hbody']

/-- A service that reads no command ends. -/
theorem serve_of_readCommand_error {service : Service S} {reason : ServiceEnd} {stream : Stream}
    (hread : readCommand service.stream = (.error reason, stream)) :
    service.serve draws = (reason, { service with stream }) := by
  rw [serve]
  split
  · next reason' stream' hread' =>
    rw [hread] at hread'
    cases hread'
    rfl
  · next command stream' hread' =>
    rw [hread] at hread'
    cases hread'

/-- A service that reads a command answers it and goes on. -/
theorem serve_of_readCommand_ok {service : Service S} {command : Bytes} {stream written : Stream}
    {device : Device S} {reply : Reply}
    (hread : readCommand service.stream = (.ok command, stream))
    (hhandle : service.device.handle (draws service.handled) command = (device, reply))
    (hwrite : stream.writeAll none (Frame.ofResponse reply.toResponse) = (.ok (), written)) :
    service.serve draws = serve draws ⟨device, written, service.handled + 1⟩ := by
  rw [serve]
  split
  · next reason stream' hread' =>
    rw [hread] at hread'
    cases hread'
  · next command' stream' hread' =>
    rw [hread] at hread'
    cases hread'
    simp only [hhandle, hwrite]

theorem AtRest.serve_eq {service : Service S} (hrest : service.AtRest) :
    service.serve draws = (.waiting, service) :=
  serve_of_readCommand_error (readCommand_of_silent hrest.silent)

/-- What serving one command does to a service: the device has handled it, the frame of the answer
was written, and serving goes on from there with whatever comes next. -/
structure Serves (draws : Nat → Draw) (service : Service S) (command : Bytes)
    (events : List PeerEvent) (next : Service S) : Prop where
  device : next.device = (service.device.handle (draws service.handled) command).1
  handled : next.handled = service.handled + 1
  written : next.stream.written = service.stream.written ++ Frame.ofResponse
    (service.device.handle (draws service.handled) command).2.toResponse
  rest : next.AtRest
  resumes : ∀ more,
    (service.receive (events ++ more)).serve draws = (next.receive more).serve draws

theorem exists_serves (draws : Nat → Draw) {service : Service S} (hrest : service.AtRest)
    {command frame : Bytes} (hframe : Frame.ofRequest command = .ok frame)
    (hshort : command.length ≤ Frame.maxRequest)
    (delivery : Delivery frame) :
    ∃ next, Serves draws service command delivery.events next := by
  have harrives : Arrives (service.stream.receive delivery.events).incoming (frame ++ [])
      delivery.wait := by
    rw [List.append_nil]
    exact delivery.arrives_receive hrest.silent
  obtain ⟨clock, incoming, wait, hread, hleft⟩ :=
    readCommand_of_arrives hframe hshort harrives
  obtain rfl := hleft.eq_nil
  have hsteady : Steady { service.stream with clock, incoming := [] } :=
    ⟨hrest.steady.takes, hrest.steady.writes, hrest.steady.flushes, hrest.steady.instant⟩
  generalize hhandle : service.device.handle (draws service.handled) command = outcome
  obtain ⟨device, reply⟩ := outcome
  obtain ⟨writePauses, hwrite, hinstant⟩ :=
    writeAll_of_steady (Frame.ofResponse reply.toResponse) hsteady (le_of_mem_none _)
  refine ⟨⟨device, { service.stream with
      clock, incoming := [], writePauses,
      written := service.stream.written ++ Frame.ofResponse reply.toResponse },
    service.handled + 1⟩, by rw [hhandle], rfl, by rw [hhandle],
    ⟨⟨hsteady.takes, hsteady.writes, hsteady.flushes, hinstant⟩, rfl⟩, ?_⟩
  intro more
  have hmore : service.receive (delivery.events ++ more) =
      (service.receive delivery.events).receive more := by
    simp only [receive, Stream.receive, List.append_assoc]
  have hread' := readCommand_receive more hread
  have hwrite' := writeAll_receive none (Frame.ofResponse reply.toResponse)
    { service.stream with clock, incoming := [] } more
  rw [hwrite] at hwrite'
  rw [hmore]
  exact serve_of_readCommand_ok hread' hhandle hwrite'

/-- A service goes on waiting after a command. -/
theorem Serves.serve_eq {service next : Service S} {command : Bytes} {events : List PeerEvent}
    (hserves : Serves draws service command events next) :
    (service.receive events).serve draws = (.waiting, next) := by
  have hresumes := hserves.resumes []
  rw [List.append_nil, receive_nil, hserves.rest.serve_eq] at hresumes
  exact hresumes

/-- A command that is too long ends the service: no command is handled, and nothing is written. -/
theorem exists_serve_of_overrun (draws : Nat → Draw) {service : Service S}
    (hrest : service.AtRest) {command frame : Bytes} (hframe : Frame.ofRequest command = .ok frame)
    (hlong : Frame.maxRequest < command.length) (delivery : Delivery frame) :
    ∃ next, (service.receive delivery.events).serve draws = (.failed .unexpectedResponse, next) ∧
      next.device = service.device ∧ next.handled = service.handled ∧
      next.stream.written = service.stream.written := by
  obtain ⟨clock, incoming, hread⟩ :=
    readCommand_of_overrun hframe hlong (delivery.arrives_receive hrest.silent)
  exact ⟨_, serve_of_readCommand_error hread, rfl, rfl, rfl⟩

end Service

end Countersign

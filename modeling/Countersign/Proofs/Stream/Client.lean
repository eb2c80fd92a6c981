/-
# A client on a steady stream

A client that may write without delay writes the whole frame of a command, whatever its peer does.
If the frame of a response arrives in time, this response is the answer, and the client stands
between two frames again. If nothing arrives, the exchange fails and the transport with it.
-/

import Countersign.Proofs.Stream.Pairing
import Countersign.Proofs.Stream.Steadiness

namespace Countersign

open Countersign.Stream

/-- An operation that has nothing to put on a stream writes nothing, whether or not it succeeds. -/
theorem Stream.Reaches.written_eq {α : Type} {stream : Stream} {goal : α → Bytes → Prop}
    {result : Except Error α × Stream} (hreaches : stream.Reaches [] goal result) :
    result.2.written = stream.written := by
  cases hreaches with
  | reached hmoves hgoal => rw [hmoves.written, List.append_nil]
  | broken hmoves hput hloses =>
    rw [hmoves.written, List.prefix_nil.1 hput, List.append_nil]

namespace Transport

/-- The transport stands between two frames, and its stream is in order. -/
structure AtRest (transport : Transport) : Prop where
  working : transport.failed = false
  steady : transport.stream.Steady
  silent : transport.stream.incoming = []

/-- The peer has no influence on whether writing goes well. -/
theorem AtRest.steady_arrive {transport : Transport} (hrest : transport.AtRest)
    (events : List PeerEvent) : (transport.arrive events).stream.Steady :=
  ⟨hrest.steady.takes, hrest.steady.writes, hrest.steady.flushes, hrest.steady.instant⟩

/-- On a steady stream, sending a frame is writing it at once and then waiting for the response. -/
theorem sendFrame_of_steady {stream : Stream} (frame : Bytes) {deadline : Nat}
    (hsteady : stream.Steady) (htime : stream.clock ≤ deadline) :
    ∃ writePauses, Instant writePauses ∧
      sendFrame frame deadline stream = Frame.readResponse (some deadline)
        { stream with writePauses, written := stream.written ++ frame } := by
  have hlimit := le_of_mem_some htime
  obtain ⟨pauses, hwrite, hinstant⟩ := writeAll_of_steady frame hsteady hlimit
  have hsteady' : Steady { stream with
      writePauses := pauses, written := stream.written ++ frame } :=
    ⟨hsteady.takes, hsteady.writes, hsteady.flushes, hinstant⟩
  obtain ⟨pauses', hflush, hinstant'⟩ := flush_of_steady hsteady' hlimit
  refine ⟨pauses', hinstant', ?_⟩
  rw [sendFrame, hwrite]
  simp only [hflush]

/-- What a client writes for a command depends neither on what arrives nor on whether it does. -/
theorem written_exchange_of_steady {transport : Transport} {command frame : Bytes} (timeout : Nat)
    (hworking : transport.failed = false) (hsteady : transport.stream.Steady)
    (hframe : Frame.ofRequest command = .ok frame) :
    (transport.exchange command timeout).2.stream.written =
      transport.stream.written ++ frame := by
  obtain ⟨writePauses, -, hsend⟩ :=
    sendFrame_of_steady frame hsteady (Nat.le_add_right transport.stream.clock timeout)
  have hread := (Frame.reaches_readResponse (some (transport.stream.clock + timeout))
    { transport.stream with
      writePauses, written := transport.stream.written ++ frame }).written_eq
  rw [exchange, hworking, hframe]
  simp only [Bool.false_eq_true, if_false, hsend]
  split
  · next response stream hresponse =>
    rw [hresponse] at hread
    exact hread
  · next failure stream hresponse =>
    rw [hresponse] at hread
    exact hread

/-- A response that arrives in time answers the command, and leaves the transport between two
frames. -/
theorem exchange_of_delivery {transport : Transport} (hrest : transport.AtRest)
    {command frame : Bytes} (hframe : Frame.ofRequest command = .ok frame) {response : Response}
    (hbound : response.data.length ≤ Frame.maxResponseData)
    (delivery : Delivery (Frame.ofResponse response)) {timeout : Nat}
    (hprompt : delivery.wait ≤ timeout) :
    ∃ next, (transport.arrive delivery.events).exchange command timeout = (.ok response, next) ∧
      next.AtRest ∧ next.stream.written = transport.stream.written ++ frame := by
  have hsteady := hrest.steady_arrive delivery.events
  obtain ⟨writePauses, hinstant, hsend⟩ :=
    sendFrame_of_steady frame hsteady (Nat.le_add_right transport.stream.clock timeout)
  have harrives : Arrives { (transport.arrive delivery.events).stream with
      writePauses, written := transport.stream.written ++ frame }.incoming
      (Frame.ofResponse response ++ []) delivery.wait := by
    rw [List.append_nil]
    exact delivery.arrives_receive hrest.silent
  have htime := le_of_mem_some (Nat.add_le_add_left hprompt transport.stream.clock)
  obtain ⟨clock, incoming, wait, hread, hleft, -⟩ :=
    Frame.readResponse_of_arrives harrives hbound htime
  obtain rfl := hleft.eq_nil
  have hsend' : sendFrame frame ((transport.arrive delivery.events).stream.clock + timeout)
      (transport.arrive delivery.events).stream = _ := hsend.trans hread
  have hworking : (transport.arrive delivery.events).failed = false := hrest.working
  refine ⟨⟨{ (transport.arrive delivery.events).stream with
      clock, incoming := [], writePauses, written := transport.stream.written ++ frame }, false⟩,
    ?_, ⟨rfl, ⟨hsteady.takes, hsteady.writes, hsteady.flushes, hinstant⟩, rfl⟩, rfl⟩
  rw [exchange, hworking, hframe]
  simp only [Bool.false_eq_true, if_false, hsend']

/-- Without a single byte from the peer, an exchange fails for good. -/
theorem exchange_of_nothing {transport : Transport} (hrest : transport.AtRest)
    {command frame : Bytes} (hframe : Frame.ofRequest command = .ok frame)
    {events : List PeerEvent} (hnothing : brought events = []) (timeout : Nat) :
    ∃ failure next, (transport.arrive events).exchange command timeout = (.error failure, next) ∧
      next.failed = true ∧ next.stream.written = transport.stream.written ++ frame := by
  have hworking : (transport.arrive events).failed = false := hrest.working
  have hwritten :=
    written_exchange_of_steady timeout hworking (hrest.steady_arrive events) hframe
  have hexchanges := exchanges_exchange (transport.arrive events) command timeout hworking
  generalize (transport.arrive events).exchange command timeout = outcome at hwritten hexchanges
  cases hexchanges with
  | broken hframe' hmoves hput hloses => exact ⟨_, _, rfl, rfl, hwritten⟩
  | unsent hframe' =>
    rw [hframe] at hframe'
    cases hframe'
  | @answered frame' response stream hframe' hmoves hbound =>
    have hincoming : brought (transport.stream.incoming ++ events) =
        Frame.ofResponse response ++ brought stream.incoming := hmoves.incoming
    rw [hrest.silent, List.nil_append, hnothing] at hincoming
    have hlengths := congrArg List.length hincoming
    simp only [Frame.ofResponse, List.length_append, BigEndian.length_fixed, List.length_nil]
      at hlengths
    omega

end Transport

end Countersign

/-
# Streams and their peers

A stream carries bytes both ways between a client and a peer. What matters to the client is only
what the peer does, event by event, and how many bytes it takes, so a stream is described by that
and by what has happened on it so far. Time passes only while the client waits.

Every way in which a stream can behave is a value here: bytes in pieces of any size, pauses, empty
reads, a closed stream, failed reads, short writes, slow writes, failed writes and failed flushes.
-/

import Countersign.Bytes
import Countersign.Error

namespace Countersign

/-- One thing that a peer does. -/
inductive PeerEvent where
  /-- The peer sends bytes. None at all reads as a closed stream, once. -/
  | data (bytes : Bytes)
  /-- The peer does nothing for a while. -/
  | pause (milliseconds : Nat)
  /-- The next read fails. -/
  | fault (fault : IoFault)
  /-- The peer closes its side: every further read finds the stream closed. -/
  | close
  deriving DecidableEq, Repr

/-- The point at which writing to a stream fails. -/
structure WriteFailure where
  /-- How many bytes the stream takes before. -/
  after : Nat
  /-- The failure of the write after them; a stream that simply takes no more bytes has none. -/
  fault : Option IoFault
  deriving DecidableEq, Repr

/-- A pause before a stream takes more bytes. -/
structure WritePause where
  /-- How many bytes the stream has taken when it pauses. -/
  after : Nat
  /-- How long it pauses, in milliseconds. -/
  length : Nat
  deriving DecidableEq, Repr

/-- The point from which on flushing a stream fails. -/
structure FlushFailure where
  /-- How many bytes the stream has taken then. -/
  after : Nat
  fault : IoFault
  deriving DecidableEq, Repr

/-- A stream with its peer. -/
structure Stream where
  /-- What the peer is going to do. After its last event it stays silent. -/
  incoming : List PeerEvent
  /-- The most bytes that one write takes, if there is a limit. -/
  pieceLimit : Option Nat := none
  /-- The point at which writing fails, if there is one. -/
  writeFailure : Option WriteFailure := none
  /-- The pauses before the stream takes more bytes, in their order. -/
  writePauses : List WritePause := []
  /-- The point from which on flushing fails, if there is one. -/
  flushFailure : Option FlushFailure := none
  /-- Everything written so far. -/
  written : Bytes := []
  /-- How many times the client has shut the stream down. -/
  shutdowns : Nat := 0
  /-- The time that has passed, in milliseconds. -/
  clock : Nat := 0
  deriving DecidableEq, Repr

/-- What a read finds. -/
inductive ReadOutcome where
  /-- At least one byte. -/
  | bytes (first : UInt8) (rest : Bytes)
  /-- The end of the stream. -/
  | closed
  /-- A failure. -/
  | fault (fault : IoFault)
  /-- Nothing until the deadline; without a deadline, nothing for ever. -/
  | silence
  deriving DecidableEq, Repr

/-- How many bytes a read finds. -/
def ReadOutcome.length : ReadOutcome → Nat
  | bytes _ rest => rest.length + 1
  | closed | fault _ | silence => 0

namespace Stream

/-- The events that are left when a piece has been taken from the bytes of the first one. -/
def keepUnread (unread : Bytes) (later : List PeerEvent) : List PeerEvent :=
  if unread.isEmpty then later else .data unread :: later

/-- Waits for the next thing that a read can see, and takes at most `want + 1` bytes of it. The
result has the time then and the events that are left. A pause that the deadline cuts short goes
on after it. -/
def await (want : Nat) (deadline : Option Nat) :
    (clock : Nat) → List PeerEvent → ReadOutcome × Nat × List PeerEvent
  | clock, [] => (.silence, deadline.getD clock, [])
  | clock, .data [] :: later => (.closed, clock, later)
  | clock, .data (first :: rest) :: later =>
    (.bytes first (rest.take want), clock, keepUnread (rest.drop want) later)
  | clock, .fault fault :: later => (.fault fault, clock, later)
  | clock, .close :: later => (.closed, clock, .close :: later)
  | clock, .pause length :: later =>
    match deadline with
    | none => await want deadline (clock + length) later
    | some limit =>
      if limit < clock + length then
        (.silence, limit, .pause (clock + length - limit) :: later)
      else await want deadline (clock + length) later

/-- How many bytes the peer still sends. -/
def pendingBytes : List PeerEvent → Nat
  | [] => 0
  | .data bytes :: later => bytes.length + pendingBytes later
  | .pause _ :: later | .fault _ :: later | .close :: later => pendingBytes later

/-- How many bytes the peer of a stream still sends. -/
def pending (stream : Stream) : Nat :=
  pendingBytes stream.incoming

@[simp]
theorem pendingBytes_keepUnread (unread : Bytes) (later : List PeerEvent) :
    pendingBytes (keepUnread unread later) = unread.length + pendingBytes later := by
  cases unread <;> simp [keepUnread, pendingBytes]

/-- Waiting takes exactly the bytes that it finds. -/
theorem pendingBytes_await (want : Nat) (deadline : Option Nat) (clock : Nat)
    (events : List PeerEvent) :
    (await want deadline clock events).1.length +
        pendingBytes (await want deadline clock events).2.2 = pendingBytes events := by
  fun_induction await want deadline clock events with
  | case3 clock first rest later =>
    have htake : (rest.take want).length + (rest.drop want).length = rest.length := by
      rw [← List.length_append, List.take_append_drop]
    simp only [ReadOutcome.length, pendingBytes_keepUnread, pendingBytes, List.length_cons]
    omega
  | _ => simp_all [ReadOutcome.length, pendingBytes]

/-- One read of at most `want + 1` bytes. -/
def read (want : Nat) (deadline : Option Nat) (stream : Stream) : ReadOutcome × Stream :=
  let (outcome, clock, incoming) := await want deadline stream.clock stream.incoming
  (outcome, { stream with clock, incoming })

/-- A read takes exactly the bytes that it finds. -/
theorem pending_read (want : Nat) (deadline : Option Nat) (stream : Stream) :
    (stream.read want deadline).1.length + (stream.read want deadline).2.pending =
      stream.pending :=
  pendingBytes_await want deadline stream.clock stream.incoming

/-- Reads until `expected` bytes are there, or until something else happens. -/
def readMore (deadline : Option Nat) (expected : Nat) (received : Bytes) (stream : Stream) :
    Except Error Bytes × Stream :=
  if received.length < expected then
    match stream.read (expected - received.length - 1) deadline with
    | (.bytes first rest, stream) =>
      readMore deadline expected (received ++ first :: rest) stream
    | (.closed, stream) => (.error (.connectionClosed expected received.length), stream)
    | (.fault fault, stream) => (.error (.io fault), stream)
    | (.silence, stream) => (.error .requestTimeout, stream)
  else (.ok received, stream)
termination_by expected - received.length
decreasing_by simp only [List.length_append, List.length_cons]; omega

/-- Reads exactly `count` bytes. Reading none succeeds whatever the peer does. -/
def readExactly (deadline : Option Nat) (count : Nat) (stream : Stream) :
    Except Error Bytes × Stream :=
  stream.readMore deadline count []

/-- Bytes that were read were pending before. -/
theorem pending_readMore (deadline : Option Nat) (expected : Nat) (received : Bytes)
    (stream : Stream) {bytes : Bytes}
    (hread : (stream.readMore deadline expected received).1 = .ok bytes) :
    bytes.length + (stream.readMore deadline expected received).2.pending =
      received.length + stream.pending := by
  fun_induction readMore deadline expected received stream with
  | case1 received stream hless first rest next hnext ih =>
    have hpending := pending_read (expected - received.length - 1) deadline stream
    rw [hnext] at hpending
    simp only [ReadOutcome.length] at hpending
    rw [ih hread, List.length_append, List.length_cons]
    omega
  | case5 received stream hless =>
    simp only [Except.ok.injEq] at hread
    rw [hread]
  | _ => simp at hread

/-- As many bytes are read as are asked for, or more when more were there from the start. -/
theorem le_length_readMore (deadline : Option Nat) (expected : Nat) (received : Bytes)
    (stream : Stream) {bytes : Bytes}
    (hread : (stream.readMore deadline expected received).1 = .ok bytes) :
    expected ≤ bytes.length := by
  fun_induction readMore deadline expected received stream with
  | case1 received stream hless first rest next hnext ih => exact ih hread
  | case5 received stream hless =>
    simp only [Except.ok.injEq] at hread
    subst hread
    omega
  | _ => simp at hread

/-- Reading some bytes leaves fewer pending. -/
theorem pending_readExactly_lt (deadline : Option Nat) (count : Nat) (stream : Stream)
    {bytes : Bytes} (hread : (stream.readExactly deadline count).1 = .ok bytes) (hpos : 0 < count) :
    (stream.readExactly deadline count).2.pending < stream.pending := by
  have hsum := pending_readMore deadline count [] stream hread
  have hle := le_length_readMore deadline count [] stream hread
  simp only [List.length_nil] at hsum
  simp only [readExactly]
  omega

/-- The most bytes that one write takes when `total` were written before: no more than the limit,
and none beyond the next pause. -/
def pieceLength (stream : Stream) (total offered : Nat) : Nat :=
  let piece := match stream.pieceLimit with
    | none => offered
    | some limit => min limit offered
  match stream.writePauses with
  | [] => piece
  | pause :: _ => min piece (pause.after - total)

/-- How many of `offered` bytes one write takes when `total` were written before, or how it
fails. -/
def acceptOnce (stream : Stream) (total offered : Nat) : Except IoFault Nat :=
  match stream.writeFailure with
  | none => .ok (stream.pieceLength total offered)
  | some failure =>
    if total < failure.after then
      .ok (min (stream.pieceLength total offered) (failure.after - total))
    else match failure.fault with
      | some fault => .error fault
      | none => .ok 0

/-- Waits through the pauses of a stream that has taken `total` bytes: whether they are over before
the deadline, the time then, and the pauses that are left. -/
def waitThrough (deadline : Option Nat) (total : Nat) :
    (clock : Nat) → List WritePause → Bool × Nat × List WritePause
  | clock, [] => (true, clock, [])
  | clock, pause :: later =>
    if total < pause.after then (true, clock, pause :: later)
    else
      match deadline with
      | none => waitThrough deadline total (clock + pause.length) later
      | some limit =>
        if limit < clock + pause.length then
          (false, limit, ⟨pause.after, clock + pause.length - limit⟩ :: later)
        else waitThrough deadline total (clock + pause.length) later

/-- Waits until the stream is ready to take more bytes than `total`, or until the deadline. -/
def becomeReady (deadline : Option Nat) (total : Nat) (stream : Stream) :
    Except Error Unit × Stream :=
  match waitThrough deadline total stream.clock stream.writePauses with
  | (true, clock, writePauses) => (.ok (), { stream with clock, writePauses })
  | (false, clock, writePauses) => (.error .requestTimeout, { stream with clock, writePauses })

/-- Offers bytes until all are taken: how many were taken, and why the others were not. -/
def acceptAll (deadline : Option Nat) (total offered : Nat) (stream : Stream) :
    Nat × Except Error Unit × Stream :=
  if offered = 0 then (0, .ok (), stream)
  else
    match stream.becomeReady deadline total with
    | (.error failure, stream) => (0, .error failure, stream)
    | (.ok (), stream) =>
      match stream.acceptOnce total offered with
      | .error fault => (0, .error (.io fault), stream)
      | .ok 0 => (0, .error (.io .writeZero), stream)
      | .ok (more + 1) =>
        let (taken, outcome, stream) :=
          acceptAll deadline (total + more + 1) (offered - (more + 1)) stream
        (more + 1 + taken, outcome, stream)
termination_by offered

/-- Writes all of the bytes, or as many as the stream takes before the deadline. -/
def writeAll (deadline : Option Nat) (bytes : Bytes) (stream : Stream) :
    Except Error Unit × Stream :=
  let (taken, outcome, after) := stream.acceptAll deadline stream.written.length bytes.length
  (outcome, { after with written := stream.written ++ bytes.take taken })

/-- Waits until the bytes that were written are on their way. -/
def flush (deadline : Option Nat) (stream : Stream) : Except Error Unit × Stream :=
  match stream.becomeReady deadline stream.written.length with
  | (.error failure, stream) => (.error failure, stream)
  | (.ok (), stream) =>
    match stream.flushFailure with
    | none => (.ok (), stream)
    | some failure =>
      if stream.written.length < failure.after then (.ok (), stream)
      else (.error (.io failure.fault), stream)

@[simp]
theorem incoming_becomeReady (deadline : Option Nat) (total : Nat) (stream : Stream) :
    (stream.becomeReady deadline total).2.incoming = stream.incoming := by
  simp only [becomeReady]
  split <;> rfl

@[simp]
theorem incoming_acceptAll (deadline : Option Nat) (total offered : Nat) (stream : Stream) :
    (stream.acceptAll deadline total offered).2.2.incoming = stream.incoming := by
  fun_induction acceptAll deadline total offered stream with
  | case1 => rfl
  | case2 total offered stream hoffered failure next hready
  | case3 total offered stream hoffered next hready fault haccept
  | case4 total offered stream hoffered next hready haccept =>
    have hincoming := incoming_becomeReady deadline total stream
    rwa [hready] at hincoming
  | case5 total offered stream hoffered next hready more haccept taken outcome after hrest ih =>
    have hincoming := incoming_becomeReady deadline total stream
    rw [hready] at hincoming
    rw [hrest] at ih
    exact ih.trans hincoming

/-- Writing does not touch what the peer sends. -/
@[simp]
theorem incoming_writeAll (deadline : Option Nat) (bytes : Bytes) (stream : Stream) :
    (stream.writeAll deadline bytes).2.incoming = stream.incoming :=
  incoming_acceptAll deadline stream.written.length bytes.length stream

/-- Shuts the stream down. -/
def shutDown (stream : Stream) : Stream :=
  { stream with shutdowns := stream.shutdowns + 1 }

end Stream

end Countersign

/-
# A device behind a stream

A device serves the commands that arrive on a stream, one after the other, until the client closes
it. A frame that is longer than any command, or that breaks off, ends the service with an error.
-/

import Countersign.Device
import Countersign.Stream.Frame

namespace Countersign

/-- How serving a stream ended. -/
inductive ServiceEnd where
  /-- The client closed the stream between two frames. -/
  | closed
  /-- The stream failed, or the client broke the framing. -/
  | failed (cause : Error)
  /-- The client stays silent, so the device is still waiting. -/
  | waiting
  deriving DecidableEq, Repr

/-- The warning that a device logs about a broken connection. -/
def ServiceEnd.warnings : ServiceEnd → List String
  | failed cause => ["mock: connection error: " ++ cause.message]
  | closed | waiting => []

/-- A device that serves a stream. -/
structure Service (S : SignatureScheme) where
  device : Device S
  stream : Stream
  /-- How many commands the device has handled. -/
  handled : Nat := 0

namespace Service

variable {S : SignatureScheme}

/-- How a failed read ends the service. A read without a deadline runs out of time only when
nothing ever comes. -/
def endOfFailure : Error → ServiceEnd
  | .requestTimeout => .waiting
  | failure => .failed failure

/-- How a failed read of a header ends the service: a client may leave between two frames. -/
def endAtHeader : Error → ServiceEnd
  | .connectionClosed _ 0 => .closed
  | failure => endOfFailure failure

/-- Reads the next command. -/
def readCommand (stream : Stream) : Except ServiceEnd Bytes × Stream :=
  match stream.readExactly none Frame.headerLength with
  | (.error failure, stream) => (.error (endAtHeader failure), stream)
  | (.ok header, stream) =>
    let length := BigEndian.value header
    if Frame.maxRequest < length then (.error (.failed .unexpectedResponse), stream)
    else
      match stream.readExactly none length with
      | (.error failure, stream) => (.error (endOfFailure failure), stream)
      | (.ok command, stream) => (.ok command, stream)

/-- Reading a command leaves fewer bytes pending. -/
theorem pending_readCommand {stream next : Stream} {command : Bytes}
    (hread : readCommand stream = (.ok command, next)) : next.pending < stream.pending := by
  unfold readCommand at hread
  split at hread
  · simp at hread
  · next header afterHeader hheader =>
    have hfound : (stream.readExactly none Frame.headerLength).1 = .ok header := by rw [hheader]
    have hless := Stream.pending_readExactly_lt none Frame.headerLength stream hfound (by decide)
    rw [hheader] at hless
    simp only at hread hless
    split at hread
    · simp at hread
    · split at hread
      · simp at hread
      · next body afterBody hbody =>
        have htaken : (afterHeader.readMore none (BigEndian.value header) []).1 = .ok body := by
          rw [← Stream.readExactly, hbody]
        have hsum := Stream.pending_readMore none (BigEndian.value header) [] afterHeader htaken
        rw [← Stream.readExactly, hbody] at hsum
        simp only [Prod.mk.injEq, Except.ok.injEq] at hread
        obtain ⟨-, rfl⟩ := hread
        simp only [List.length_nil] at hsum
        omega

/-- Serves commands until the stream ends. The `n`-th command uses the `n`-th draw. -/
def serve (draws : Nat → Draw) (service : Service S) : ServiceEnd × Service S :=
  match _hread : readCommand service.stream with
  | (.error reason, stream) => (reason, { service with stream })
  | (.ok command, stream) =>
    let (device, reply) := service.device.handle (draws service.handled) command
    let written := stream.writeAll none (Frame.ofResponse reply.toResponse)
    let next : Service S := ⟨device, written.2, service.handled + 1⟩
    match written.1 with
    | .error failure => (.failed failure, next)
    | .ok () => serve draws next
termination_by service.stream.pending
decreasing_by
  have hless := pending_readCommand ‹_›
  simpa only [Stream.pending, Stream.incoming_writeAll] using hless

end Service

end Countersign

/-
# Transports

A transport pairs commands with responses over one stream. Nothing in a response says to which
command it belongs, so a stream that is out of step is useless: after the first failed exchange
the stream is shut down and never touched again.
-/

import Countersign.Stream.Frame

namespace Countersign

/-- A stream on which commands and responses alternate. -/
structure Transport where
  stream : Stream
  /-- Whether an exchange has failed. -/
  failed : Bool := false
  deriving DecidableEq, Repr

namespace Transport

/-- Sends a frame and reads the response, all of it before the deadline. -/
def sendFrame (frame : Bytes) (deadline : Nat) (stream : Stream) :
    Except Error Response × Stream :=
  match stream.writeAll (some deadline) frame with
  | (.error failure, stream) => (.error failure, stream)
  | (.ok (), stream) =>
    match stream.flush (some deadline) with
    | (.error failure, stream) => (.error failure, stream)
    | (.ok (), stream) => Frame.readResponse (some deadline) stream

/-- Sends a command and reads the response, for at most `timeout` milliseconds. -/
def exchange (command : Bytes) (timeout : Nat) (transport : Transport) :
    Except Error Response × Transport :=
  if transport.failed then (.error .transportFailed, transport)
  else
    match Frame.ofRequest command with
    | .error failure => (.error failure, transport)
    | .ok frame =>
      match sendFrame frame (transport.stream.clock + timeout) transport.stream with
      | (.ok response, stream) => (.ok response, { transport with stream })
      | (.error failure, stream) => (.error failure, ⟨stream.shutDown, true⟩)

/-- The warning about a failure, if it closes a transport. What was never sent does not. -/
def closingWarning? : Error → Option String
  | .transportFailed | .wire _ => none
  | failure => some ("Exchange failed (" ++ failure.message ++ "), closing transport")

/-- The warnings of an exchange. -/
def warnings : Except Error Response → List String
  | .ok _ => []
  | .error failure => (closingWarning? failure).toList

end Transport

end Countersign

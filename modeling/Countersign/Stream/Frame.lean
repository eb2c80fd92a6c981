/-
# Frames

A request travels as its length in four bytes and then the command. A response travels as the
length of its data in four bytes, the data, and the two bytes of the status word, which the length
does not count.
-/

import Countersign.Bytes.BigEndian
import Countersign.Command
import Countersign.Command.Response
import Countersign.Stream

namespace Countersign.Frame

/-- The length of the length in front of a frame. -/
def headerLength : Nat := 4

/-- The longest response data that a client reads. -/
def maxResponseData : Nat := 64 * 1024

/-- The longest command that a device reads. -/
def maxRequest : Nat := commandHeaderLength + maxCommandData

/-- The frame of a command, if its length fits the header. -/
def ofRequest (command : Bytes) : Except Error Bytes :=
  if command.length < BigEndian.capacity headerLength then
    .ok (BigEndian.fixed headerLength command.length ++ command)
  else .error (.wire (.elementTooLong command.length))

/-- The frame of a response. -/
def ofResponse (response : Response) : Bytes :=
  BigEndian.fixed headerLength response.data.length ++ response.data ++
    BigEndian.fixed 2 response.status.toNat

/-- Reads the rest of a response after its header has announced the length of the data. -/
def readResponseBody (deadline : Option Nat) (length : Nat) (stream : Stream) :
    Except Error Response × Stream :=
  match stream.readExactly deadline (length + 2) with
  | (.error failure, stream) => (.error failure, stream)
  | (.ok body, stream) =>
    (.ok ⟨body.take length, UInt16.ofNat (BigEndian.value (body.drop length))⟩, stream)

/-- Reads a framed response. A longer one than allowed is refused before its data are read. -/
def readResponse (deadline : Option Nat) (stream : Stream) : Except Error Response × Stream :=
  match stream.readExactly deadline headerLength with
  | (.error failure, stream) => (.error failure, stream)
  | (.ok header, stream) =>
    let length := BigEndian.value header
    if maxResponseData < length then (.error .unexpectedResponse, stream)
    else readResponseBody deadline length stream

end Countersign.Frame

/-
# Responses

A response is its data followed by a two-byte status word; nothing says where the data end but
the end of the response.
-/

import Countersign.Command.StatusWord
import Countersign.Error
import Countersign.Wire.Codec

namespace Countersign

/-- What the device answers to a command. The status stays a plain number, since devices may
answer words that are not listed. -/
structure Response where
  /-- The data of the response. -/
  data : Bytes
  /-- The status word. -/
  status : UInt16
  deriving DecidableEq, Repr

namespace Response

/-- The listed status word, if it is one. -/
def statusWord? (response : Response) : Option StatusWord :=
  StatusWord.ofCode? response.status

/-- Whether the command was carried out. -/
def isSuccess (response : Response) : Bool :=
  response.status == StatusWord.success.code

/-- The data of a success; any other response is a refusal that keeps the status as it is. -/
def toResult (response : Response) : Except Error Bytes :=
  if response.isSuccess then .ok response.data else .error (.status response.status)

instance : Encode Response where
  encodedLength response := .ok (response.data.length + 2)
  write response buffer :=
    if buffer.room.length < response.data.length + 2 then .error .invalidLength
    else do
      let buffer ← buffer.put response.data
      buffer.put (BigEndian.fixed 2 response.status.toNat)

/-- The response that makes up a whole byte string. -/
def read (bytes : Bytes) : Except WireError (Response × Bytes) :=
  if bytes.length < 2 then .error .invalidLength
  else
    let data := bytes.take (bytes.length - 2)
    let status := bytes.drop (bytes.length - 2)
    .ok (⟨data, UInt16.ofNat (BigEndian.value status)⟩, [])

instance : Decode Response where
  read := read

end Response

end Countersign

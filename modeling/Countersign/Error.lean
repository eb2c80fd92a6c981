/-
# Failures of an exchange

Working with keys and devices fails for one of these causes. Each has one text and one form as a
value, both fixed here.
-/

import Countersign.Bytes.Hex
import Countersign.Command.StatusWord
import Countersign.Wire.Error

namespace Countersign

/-- A failed operation on a stream, a socket or a file. -/
inductive IoFault where
  | connectionReset
  | connectionAborted
  | connectionRefused
  | brokenPipe
  | permissionDenied
  /-- The stream took no more bytes in the middle of a message. -/
  | writeZero
  /-- Any other kind of failure, by its name and its description. -/
  | other (kind description : String)
  /-- A failure reported by the operating system with its number. -/
  | system (number : Nat) (kind description : String)
  deriving DecidableEq, Repr

namespace IoFault

/-- The failure of this kind. -/
def ofKind (kind : String) : IoFault :=
  match kind with
  | "ConnectionReset" => connectionReset
  | "ConnectionAborted" => connectionAborted
  | "ConnectionRefused" => connectionRefused
  | "BrokenPipe" => brokenPipe
  | "PermissionDenied" => permissionDenied
  | "NotConnected" => other kind "not connected"
  | "TimedOut" => other kind "timed out"
  | "UnexpectedEof" => other kind "unexpected end of file"
  | "Interrupted" => other kind "operation interrupted"
  | "WouldBlock" => other kind "operation would block"
  | "InvalidData" => other kind "invalid data"
  | "InvalidInput" => other kind "invalid input parameter"
  | "NotFound" => other kind "entity not found"
  | "WriteZero" => writeZero
  | kind => other kind "other error"

/-- The text shown for a failed operation. -/
def message : IoFault → String
  | connectionReset => "connection reset"
  | connectionAborted => "connection aborted"
  | connectionRefused => "connection refused"
  | brokenPipe => "broken pipe"
  | permissionDenied => "permission denied"
  | writeZero => "write zero"
  | other _ description => description
  | system number _ description => description ++ " (os error " ++ toString number ++ ")"

/-- A failed operation as a value. -/
def label : IoFault → String
  | connectionReset => "Kind(ConnectionReset)"
  | connectionAborted => "Kind(ConnectionAborted)"
  | connectionRefused => "Kind(ConnectionRefused)"
  | brokenPipe => "Kind(BrokenPipe)"
  | permissionDenied => "Kind(PermissionDenied)"
  | writeZero => "Kind(WriteZero)"
  | other kind _ => "Kind(" ++ kind ++ ")"
  | system number kind description =>
    "Os \x7b code: " ++ toString number ++ ", kind: " ++ kind ++ ", message: " ++
      Text.quotedText description ++ " \x7d"

end IoFault

/-- Why an operation on keys, signatures or a device failed. -/
inductive Error where
  /-- A value could not be written or read. -/
  | wire (cause : WireError)
  /-- The stream failed. -/
  | io (fault : IoFault)
  /-- The peer closed the stream inside a frame. -/
  | connectionClosed (expected received : Nat)
  /-- No answer came in time. -/
  | requestTimeout
  /-- An earlier exchange failed, so the stream may no longer be used. -/
  | transportFailed
  /-- The bytes are no key. -/
  | invalidKey
  /-- The bytes are no signature. -/
  | invalidSignature
  /-- The signature is not by this key over these bytes. -/
  | signVerificationFail
  /-- The device refused the command. -/
  | status (code : UInt16)
  /-- The answer does not have the form that the command asks for. -/
  | unexpectedResponse
  /-- A text is not a hexadecimal byte string. -/
  | hex (cause : HexError)
  deriving DecidableEq, Repr

namespace Error

/-- The listed status word of a refusal by the device. -/
def statusWord? : Error → Option StatusWord
  | status code => StatusWord.ofCode? code
  | _ => none

/-- The refusal by a listed status word. -/
def ofStatusWord (word : StatusWord) : Error :=
  .status word.code

/-- The text shown for a failure. -/
def message : Error → String
  | wire cause => "APDU error: " ++ cause.message
  | io fault => "IO error: " ++ fault.message
  | connectionClosed expected received =>
    "Connection closed (expected " ++ toString expected ++ " bytes, received " ++
      toString received ++ ")"
  | requestTimeout => "Timeout waiting for device response"
  | transportFailed => "Transport failed, reconnect to continue"
  | invalidKey => "Invalid key object"
  | invalidSignature => "Invalid signature encoding"
  | signVerificationFail => "Signature verification failed"
  | status code => "Device returned status " ++ Text.hexNumber 4 code.toNat
  | unexpectedResponse => "Unexpected APDU response"
  | hex cause => "Hex decode error: " ++ cause.message

/-- A failure as a value. -/
def label : Error → String
  | wire cause => "Apdu(" ++ cause.label ++ ")"
  | io fault => "Io(" ++ fault.label ++ ")"
  | connectionClosed expected received =>
    "ConnectionClosed \x7b expected: " ++ toString expected ++ ", received: " ++
      toString received ++ " \x7d"
  | requestTimeout => "RequestTimeout"
  | transportFailed => "TransportFailed"
  | invalidKey => "InvalidKey"
  | invalidSignature => "InvalidSignature"
  | signVerificationFail => "SignVerificationFail"
  | status code => "Status(" ++ toString code.toNat ++ ")"
  | unexpectedResponse => "UnexpectedResponse"
  | hex cause => "Hex(" ++ cause.label ++ ")"

/-- The outcome of an operation without a result, as a value. -/
def outcomeLabel : Except Error Unit → String
  | .ok () => "Ok(())"
  | .error failure => "Err(" ++ failure.label ++ ")"

/-- The text of the failure below this one, where there is one. -/
def sourceMessage? : Error → Option String
  | wire cause => some cause.message
  | io fault => some fault.message
  | hex cause => some cause.message
  | _ => none

end Error

end Countersign

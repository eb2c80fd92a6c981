/-
# Requests and the objects in responses

A request is what the client wants from the device, before it is put into a command. Most carry
one byte string that was prepared elsewhere; address checks have a form of their own.
-/

import Countersign.AddressCheck
import Countersign.Command
import Countersign.Command.Instruction

namespace Countersign

/-- What the client can ask for. -/
inductive Request where
  | getVersion
  | startNewTransaction
  | getChallenge
  /-- Registers the encoded credentials of a partner. -/
  | setPartnerKey (credentials : Bytes)
  /-- Hands over the signature of the root over the registered credentials. -/
  | checkPartner (signature : Bytes)
  /-- Hands over a signed trusted name descriptor. -/
  | trustedName (descriptor : Bytes)
  | checkPayoutAddress (check : AddressCheck)
  | checkRefundAddress (check : AddressCheck)
  deriving DecidableEq, Repr

namespace Request

/-- The instruction that a request uses. -/
def instruction : Request → Instruction
  | getVersion => .getVersion
  | startNewTransaction => .startNewTransaction
  | getChallenge => .getChallenge
  | setPartnerKey _ => .setPartnerKey
  | checkPartner _ => .checkPartner
  | trustedName _ => .sendTrustedNameDescriptor
  | checkPayoutAddress _ => .checkPayoutAddress
  | checkRefundAddress _ => .checkRefundAddress

instance : Encode Request where
  encodedLength
    | getVersion | startNewTransaction | getChallenge => .ok 0
    | setPartnerKey payload | checkPartner payload | trustedName payload => .ok payload.length
    | checkPayoutAddress check | checkRefundAddress check => Encode.encodedLength check
  write
    | getVersion, buffer | startNewTransaction, buffer | getChallenge, buffer => .ok buffer
    | setPartnerKey payload, buffer | checkPartner payload, buffer
    | trustedName payload, buffer => buffer.put payload
    | checkPayoutAddress check, buffer | checkRefundAddress check, buffer =>
      Encode.write check buffer

/-- Reads the data of a command as the request of its instruction, where the instruction has
one. Requests without data leave all bytes unread, and those with a single byte string take all
of them. -/
def read? (instruction : Instruction) (bytes : Bytes) :
    Option (Except WireError (Request × Bytes)) :=
  match instruction with
  | .getVersion => some (.ok (getVersion, bytes))
  | .startNewTransaction => some (.ok (startNewTransaction, bytes))
  | .getChallenge => some (.ok (getChallenge, bytes))
  | .setPartnerKey => some (.ok (setPartnerKey bytes, []))
  | .checkPartner => some (.ok (checkPartner bytes, []))
  | .sendTrustedNameDescriptor => some (.ok (trustedName bytes, []))
  | .checkPayoutAddress =>
    some ((AddressCheck.read bytes).map fun (check, rest) => (checkPayoutAddress check, rest))
  | .checkRefundAddress =>
    some ((AddressCheck.read bytes).map fun (check, rest) => (checkRefundAddress check, rest))
  | _ => none

/-- The command that carries a request, with the two parameters given. -/
def toCommand (request : Request) (p1 p2 : UInt8) : Except WireError Bytes := do
  let data ← encode request
  encode (⟨exchangeClass, request.instruction.code, p1, p2, data⟩ : Command)

end Request

/-- The version of the application on the device. -/
structure Version where
  major : UInt8
  minor : UInt8
  patch : UInt8
  deriving DecidableEq, Repr

namespace Version

/-- The three numbers with points between them. -/
def text (version : Version) : String :=
  ".".intercalate [toString version.major.toNat, toString version.minor.toNat,
    toString version.patch.toNat]

/-- Versions always travel as three bytes. -/
def toBytes (version : Version) : Bytes :=
  [version.major, version.minor, version.patch]

instance : Encode Version where
  encodedLength _ := .ok 3
  write version buffer := buffer.put version.toBytes

/-- The version at the front of a byte string, and the bytes after it. -/
def read : Bytes → Except WireError (Version × Bytes)
  | major :: minor :: patch :: rest => .ok (⟨major, minor, patch⟩, rest)
  | _ => .error .invalidLength

instance : Decode Version where
  read := read

end Version

/-- The number that the next trusted name descriptor has to contain. -/
structure Challenge where
  number : UInt32
  deriving DecidableEq, Repr

namespace Challenge

/-- Challenges always travel as four bytes. -/
def toBytes (challenge : Challenge) : Bytes :=
  BigEndian.fixed 4 challenge.number.toNat

instance : Encode Challenge where
  encodedLength _ := .ok 4
  write challenge buffer := buffer.put challenge.toBytes

/-- The challenge at the front of a byte string, and the bytes after it. -/
def read (bytes : Bytes) : Except WireError (Challenge × Bytes) := do
  let (digits, rest) ← Field.run 4 bytes
  .ok (⟨UInt32.ofNat (BigEndian.value digits)⟩, rest)

instance : Decode Challenge where
  read := read

end Challenge

end Countersign

/-
# Status words

Every response ends in two bytes that say how the command went. Devices may answer words that
are not listed here; those stay plain numbers.
-/

import Countersign.Bytes.BigEndian

namespace Countersign

/-- The status words of the exchange application. -/
inductive StatusWord where
  | success
  | incorrectCommandData
  | deserializationFailed
  | wrongTransactionId
  | invalidAddress
  | userRefused
  | internalError
  | wrongP2
  | classNotSupported
  | invalidInstruction
  | signVerificationFail
  deriving DecidableEq, Repr

namespace StatusWord

/-- Every status word, in the order in which they are listed. -/
def all : List StatusWord :=
  [success, incorrectCommandData, deserializationFailed, wrongTransactionId, invalidAddress,
    userRefused, internalError, wrongP2, classNotSupported, invalidInstruction,
    signVerificationFail]

/-- The word itself. -/
def code : StatusWord → UInt16
  | success => 0x9000
  | incorrectCommandData => 0x6a80
  | deserializationFailed => 0x6a81
  | wrongTransactionId => 0x6a82
  | invalidAddress => 0x6a83
  | userRefused => 0x6a84
  | internalError => 0x6a85
  | wrongP2 => 0x6a86
  | classNotSupported => 0x6e00
  | invalidInstruction => 0x6d00
  | signVerificationFail => 0x9d1a

/-- The name under which a status word is shown. -/
def name : StatusWord → String
  | success => "Success"
  | incorrectCommandData => "IncorrectCommandData"
  | deserializationFailed => "DeserializationFailed"
  | wrongTransactionId => "WrongTransactionId"
  | invalidAddress => "InvalidAddress"
  | userRefused => "UserRefused"
  | internalError => "InternalError"
  | wrongP2 => "WrongP2"
  | classNotSupported => "ClassNotSupported"
  | invalidInstruction => "InvalidInstruction"
  | signVerificationFail => "SignVerificationFail"

/-- The listed word with this number. -/
def ofCode? (code : UInt16) : Option StatusWord :=
  all.find? (·.code == code)

/-- The listed word with this name, spelled exactly. -/
def ofName? (text : String) : Option StatusWord :=
  all.find? (·.name == text)

/-- How the listed word of a status is shown, or that the status has none. -/
def shownOption : Option StatusWord → String
  | none => "None"
  | some word => "Some(" ++ word.name ++ ")"

/-- The two bytes at the end of a response. -/
def toBytes (word : StatusWord) : Bytes :=
  BigEndian.fixed 2 word.code.toNat

/-- Whether the command was carried out. -/
def isSuccess (word : StatusWord) : Bool :=
  word == success

end StatusWord

end Countersign

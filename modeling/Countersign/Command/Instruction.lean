/-
# Instructions of the exchange application

All commands share one class byte; the instruction byte says what is asked.
-/

namespace Countersign

/-- The class byte of every command of the exchange application. -/
def exchangeClass : UInt8 := 0xe0

/-- What a command asks the device to do. -/
inductive Instruction where
  | getVersion
  | startNewTransaction
  | setPartnerKey
  | checkPartner
  | processTransactionResponse
  | checkTransactionSignature
  | checkPayoutAddress
  | checkRefundAddress
  | startSigningTransaction
  | getChallenge
  | sendTrustedNameDescriptor
  deriving DecidableEq, Repr

namespace Instruction

/-- Every instruction, in order. -/
def all : List Instruction :=
  [getVersion, startNewTransaction, setPartnerKey, checkPartner, processTransactionResponse,
    checkTransactionSignature, checkPayoutAddress, checkRefundAddress, startSigningTransaction,
    getChallenge, sendTrustedNameDescriptor]

/-- The instruction byte. -/
def code : Instruction → UInt8
  | getVersion => 0x02
  | startNewTransaction => 0x03
  | setPartnerKey => 0x04
  | checkPartner => 0x05
  | processTransactionResponse => 0x06
  | checkTransactionSignature => 0x07
  | checkPayoutAddress => 0x08
  | checkRefundAddress => 0x09
  | startSigningTransaction => 0x0a
  | getChallenge => 0x10
  | sendTrustedNameDescriptor => 0x11

/-- The name under which an instruction is shown. -/
def name : Instruction → String
  | getVersion => "GetVersion"
  | startNewTransaction => "StartNewTransaction"
  | setPartnerKey => "SetPartnerKey"
  | checkPartner => "CheckPartner"
  | processTransactionResponse => "ProcessTransactionResponse"
  | checkTransactionSignature => "CheckTransactionSignature"
  | checkPayoutAddress => "CheckPayoutAddress"
  | checkRefundAddress => "CheckRefundAddress"
  | startSigningTransaction => "StartSigningTransaction"
  | getChallenge => "GetChallenge"
  | sendTrustedNameDescriptor => "SendTrustedNameDescriptor"

/-- The instruction with this byte. -/
def ofCode? (code : UInt8) : Option Instruction :=
  all.find? (·.code == code)

/-- The instruction with this name, spelled exactly. -/
def ofName? (text : String) : Option Instruction :=
  all.find? (·.name == text)

end Instruction

end Countersign

/-
# Settings

The arguments that every command shares: where the device is, how long to wait for it, and how
much is logged. The readers of values that arguments ask for stand here too.
-/

import Countersign.CommandLine.Argument
import Countersign.CommandLine.Number
import Countersign.Program

namespace Countersign.CommandLine

/-- The settings that every command shares. -/
structure Settings where
  endpoint : Endpoint := ⟨.loopback, defaultPort⟩
  /-- How long to wait for the connection and for each response, in milliseconds. -/
  timeout : Nat := defaultTimeout
  logLevel : LogLevel
  /-- Whether to use a device that is started for the occasion. -/
  mock : Bool := false
  deriving DecidableEq, Repr

/-- Takes in a value that is read by the given reader. -/
def takeRead {Draft α : Type} (read : String → Except String α) (set : α → Draft → Draft) :
    TakeIn Draft :=
  fun text draft => (read text).map fun value => set value draft

/-- Any text. -/
def readText (text : String) : Except String String :=
  .ok text

/-- The thing with this name. -/
def readVariant {α : Type} (ofName? : String → Option α) (text : String) : Except String α :=
  match ofName? text with
  | some value => .ok value
  | none => .error "Matching variant not found"

/-- A hexadecimal byte string, with or without `0x` in front. -/
def readHex (text : String) : Except String Bytes :=
  let digits := match text.toList with
    | '0' :: 'x' :: digits => String.ofList digits
    | _ => text
  (Hex.decode digits).mapError HexError.message

/-- An address. -/
def readAddress (text : String) : Except String IpAddress :=
  match IpAddress.ofText? text with
  | some address => .ok address
  | none => .error "invalid IP address syntax"

/-- A log level. -/
def readLogLevel (text : String) : Except String LogLevel :=
  match LogLevel.ofName? text with
  | some level => .ok level
  | none => .error "attempted to convert a string that doesn't match an existing log level"

namespace Settings

/-- The address of the device. -/
def addressArgument : NamedArgument Settings where
  name := "addr"
  action := .take (takeRead readAddress fun address settings =>
    { settings with endpoint := { settings.endpoint with address } })
  variableName := some "SPECULOS_ADDR"

/-- The port of the device. -/
def portArgument : NamedArgument Settings where
  name := "port"
  action := .take (takeRead (readUpTo 65535) fun port settings =>
    { settings with endpoint := { settings.endpoint with port := UInt16.ofNat port } })
  variableName := some "SPECULOS_APDU_PORT"

/-- How long to wait. -/
def timeoutArgument : NamedArgument Settings where
  name := "timeout-ms"
  action := .take (takeRead readUpToMax fun timeout settings => { settings with timeout })

/-- How much is logged, with the environment variable for it. -/
def logLevelArgument (variableName : Option String) : NamedArgument Settings where
  name := "log-level"
  action := .take (takeRead readLogLevel fun logLevel settings => { settings with logLevel })
  variableName := variableName

/-- Whether to start a device. -/
def mockArgument : NamedArgument Settings where
  name := "mock"
  action := .mark fun settings => { settings with mock := true }

end Settings

end Countersign.CommandLine

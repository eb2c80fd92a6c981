/-
# Programs

A program is a dialog with the world in which a device can be reached, lines can be logged, files
can be written and random bytes can be drawn. It may end in a failure, which has a text and, where
it was caused by something below, the text of that.
-/

import Countersign.Handle
import Countersign.Network.Address
import Countersign.Stream.Transport

namespace Countersign

/-- How much is logged: each level includes those before it. -/
inductive LogLevel where
  | off
  | error
  | warn
  | info
  | debug
  | trace
  deriving DecidableEq, Repr

namespace LogLevel

/-- Every level, the most silent first. -/
def all : List LogLevel := [off, error, warn, info, debug, trace]

/-- The name under which a level is given and shown. -/
def name : LogLevel → String
  | off => "OFF"
  | error => "ERROR"
  | warn => "WARN"
  | info => "INFO"
  | debug => "DEBUG"
  | trace => "TRACE"

/-- The level with this name, in either case. -/
def ofName? (text : String) : Option LogLevel :=
  all.find? (·.name == text.map Char.toUpper)

/-- The place of a level in their order. -/
def rank : LogLevel → Nat
  | off => 0
  | error => 1
  | warn => 2
  | info => 3
  | debug => 4
  | trace => 5

/-- Whether a line of the given level is logged at this level. -/
def admits (level line : LogLevel) : Bool :=
  line.rank ≤ level.rank

end LogLevel

/-- Why a program fails. -/
structure Failure where
  /-- The text of the failure. -/
  message : String
  /-- The text of what caused it. -/
  source : Option String := none
  deriving DecidableEq, Repr

namespace Failure

/-- A failure on the way to the device. -/
def ofError (cause : Error) : Failure :=
  ⟨cause.message, cause.sourceMessage?⟩

/-- A failure to write a value. -/
def ofWireError (cause : WireError) : Failure :=
  { message := cause.message }

/-- What is shown to the user. -/
def report (failure : Failure) : String :=
  "Error: " ++ failure.message ++
    match failure.source with
    | none => ""
    | some source => "\n\nCaused by:\n    " ++ source

end Failure

/-- What a program asks of the world. -/
inductive Effect where
  /-- To start a device on the same host. -/
  | startDevice
  /-- To connect to a device, within so many milliseconds. -/
  | connect (endpoint : Endpoint) (timeout : Nat)
  /-- To send a command to the connected device. -/
  | exchange (exchange : Exchange)
  /-- To log a line. -/
  | log (level : LogLevel) (line : String)
  /-- To write a file. -/
  | save (path content : String)
  /-- To draw random bytes. -/
  | draw
  deriving DecidableEq, Repr

/-- How an exchange went. -/
structure Carried where
  result : Except Error Response
  /-- The warnings of a device on the same host, which come before those of the client. -/
  warnings : List String := []

/-- What the world answers. -/
abbrev Effect.Answer : Effect → Type
  | startDevice => Except Failure Endpoint
  | connect _ _ => Except Error Unit
  | exchange _ => Carried
  | log _ _ => Unit
  | save _ _ => Except IoFault Unit
  | draw => Bytes

/-- A dialog with the world that may fail. -/
abbrev Program (α : Type) : Type :=
  ExceptT Failure (Dialog Effect.Answer) α

namespace Program

/-- Asks the world. -/
def ask (effect : Effect) : Program effect.Answer :=
  ExceptT.lift (Dialog.question effect)

/-- Logs a line. -/
def info (line : String) : Program Unit :=
  ask (.log .info line)

/-- Draws random bytes. -/
def draw : Program Bytes :=
  ask .draw

/-- Goes on with a result, or fails with the error. -/
def ofResult {α : Type} : Except Error α → Program α
  | .ok result => pure result
  | .error cause => throw (.ofError cause)

/-- Goes on with a written value, or fails with the reason why it cannot be written. -/
def ofWritten {α : Type} : Except WireError α → Program α
  | .ok result => pure result
  | .error cause => throw (.ofWireError cause)

/-- Sends a command, and logs what there is to warn of. -/
def carry (exchange : Exchange) : Dialog Effect.Answer (Except Error Response) := do
  let carried ← Dialog.question (Effect.exchange exchange)
  let warnings := carried.warnings ++ Transport.warnings carried.result
  warnings.forM fun warning => Dialog.question (Effect.log .warn warning)
  pure carried.result

/-- Holds the dialog of a client with the connected device, whatever it ends in. -/
def attempt {α : Type} (client : Client α) : Program (Except Error α) :=
  ExceptT.lift (Dialog.hold carry client.run)

/-- Holds the dialog of a client with the connected device, and fails if it fails. -/
def ofClient {α : Type} (client : Client α) : Program α := do
  ofResult (← attempt client)

/-- Passes a question on, unless it is a line that the level does not admit. -/
def passOn (level : LogLevel) (effect : Effect) : Dialog Effect.Answer effect.Answer :=
  match effect with
  | .log line text =>
    if level.admits line then .ask (.log line text) .done else .done ()
  | effect => .ask effect .done

/-- The same program, with every line left out that the level does not admit. -/
def quieted {α : Type} (level : LogLevel) (program : Program α) : Program α :=
  ExceptT.mk (Dialog.hold (passOn level) program.run)

end Program

end Countersign

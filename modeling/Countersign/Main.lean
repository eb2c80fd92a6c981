/-
# The command

The tools as one command: `rehearse` plays a rehearsal, and everything else is a task of the signing
tool. This is the only module that touches the world. It answers what a program asks for: random
bytes, lines, files, and a device, which lives in memory or at the other end of a socket.

Nothing is decided here. In particular what arrives on a socket becomes an event of a `Stream`, and
`Transport.exchange` says whether that makes up a response.
-/

import Countersign.CommandLine.RehearsalTool
import Countersign.CommandLine.SigningTool
import Countersign.Device
import Countersign.Signature.Ecdsa
import Std.Async.TCP
import Std.Async.Timer

namespace Countersign.Outside

open Std.Async (Async)

/-- A socket that is connected to a device. -/
abbrev Socket : Type := Std.Async.TCP.Socket.Client

/-- What a program is connected to. -/
inductive Connection where
  | none
  /-- A device that lives in memory. -/
  | inMemory (device : Device Ecdsa.scheme)
  /-- A device at the other end of a socket, with what has arrived from it. -/
  | remote (socket : Socket) (transport : Transport)

/-- What a program has set up. -/
structure World where
  /-- The device that was started for the occasion, until it is connected. -/
  started : Option (Device Ecdsa.scheme) := none
  connection : Connection := .none

/-- A failure that the system reports with a number. Sockets report the number negated. -/
def systemFault (number : UInt32) (description : String) : IoFault :=
  let number := if number < 0x80000000 then number else -number
  .system number.toNat "Other" description.capitalize

/-- A failed operation of the system. -/
def faultOf : IO.Error → IoFault
  | .noFileOrDirectory _ number description | .permissionDenied _ number description
  | .noSuchThing _ number description | .inappropriateType _ number description
  | .alreadyExists _ number description | .invalidArgument _ number description
  | .resourceExhausted _ number description | .interrupted _ number description
  | .otherError number description | .resourceVanished number description
  | .resourceBusy number description | .unsupportedOperation number description
  | .unsatisfiedConstraints number description | .timeExpired number description
  | .illegalOperation number description => systemFault number description
  | fault => .other "Other" fault.toString

/-- Fresh random bytes. -/
def entropy : IO Bytes := do
  let bytes ← IO.getRandomBytes 32
  return bytes.toList

/-- The time of day of a moment, given in seconds. -/
def timeOfDay (seconds : Nat) : String :=
  let twoDigits (number : Nat) : String := (if number < 10 then "0" else "") ++ toString number
  twoDigits (seconds / 3600 % 24) ++ ":" ++ twoDigits (seconds / 60 % 60) ++ ":" ++
    twoDigits (seconds % 60)

/-- Prints a line of the log. -/
def printLine (level : LogLevel) (line : String) : IO Unit := do
  let now ← Std.Time.Timestamp.now
  IO.println (timeOfDay now.toSecondsSinceUnixEpoch.val.toNat ++ " [" ++ level.name ++ "] " ++ line)

/-- The address of a socket. -/
def socketAddress (endpoint : Endpoint) : Std.Net.SocketAddress :=
  match endpoint.address with
  | .v4 first second third fourth => .v4 ⟨⟨#v[first, second, third, fourth]⟩, endpoint.port⟩
  | .v6 groups => .v6 ⟨⟨groups⟩, endpoint.port⟩

/-- Waits for a result, for at most so many milliseconds. -/
def within {α : Type} (milliseconds : Nat) (work : Async α) : IO (Option α) :=
  let alarm : Async (Option α) := do
    Std.Async.sleep (Std.Time.Millisecond.Offset.ofNat milliseconds)
    return none
  (Async.race (some <$> work) alarm).block

/-- Connects a socket. -/
def openSocket (endpoint : Endpoint) (timeout : Nat) : IO (Except Error Socket) := do
  try
    let socket ← Std.Async.TCP.Socket.Client.mk
    match ← within timeout (socket.connect (socketAddress endpoint)) with
    | none => return .error .requestTimeout
    | some () => do
      socket.noDelay
      return .ok socket
  catch fault => return .error (.io (faultOf fault))

/-- What comes next on a socket before the deadline. -/
def nextEvent (socket : Socket) (deadline : Nat) : IO (Option PeerEvent) := do
  try
    match ← within (deadline - (← IO.monoMsNow)) (socket.recv? 65536) with
    | none => return none
    | some none => return some .close
    | some (some bytes) => return some (.data bytes.toList)
  catch fault => return some (.fault (faultOf fault))

/-- Sends bytes. A failure is what the next read finds. -/
def send (socket : Socket) (bytes : Bytes) : IO (List PeerEvent) := do
  try
    (socket.send ⟨bytes.toArray⟩).block
    return []
  catch fault => return [.fault (faultOf fault)]

/-- The transport with one more thing that has arrived. -/
def arrive (event : PeerEvent) (transport : Transport) : Transport :=
  let stream := transport.stream
  { transport with stream := { stream with incoming := stream.incoming ++ [event] } }

/-- Waits until what has arrived makes up a response, or until the deadline. -/
partial def awaitResponse (socket : Socket) (deadline : Nat) (exchange : Exchange)
    (transport : Transport) : IO (Except Error Response × Transport) := do
  let outcome := transport.exchange exchange.command exchange.timeout
  match outcome.1 with
  | .error .requestTimeout =>
    match ← nextEvent socket deadline with
    | none => return outcome
    | some event => awaitResponse socket deadline exchange (arrive event transport)
  | _ => return outcome

/-- Sends a command over a socket and waits for its response. A transport that fails shuts the
socket down. -/
def exchangeOver (socket : Socket) (exchange : Exchange) (transport : Transport) :
    IO (Except Error Response × Transport) := do
  let deadline := (← IO.monoMsNow) + exchange.timeout
  let planned := (transport.exchange exchange.command exchange.timeout).2.stream.written
  let failures ← send socket (planned.drop transport.stream.written.length)
  let outcome ← awaitResponse socket deadline exchange (failures.foldr arrive transport)
  if outcome.2.failed ∧ ¬transport.failed then
    try socket.shutdown.block catch _ => pure ()
  return outcome

/-- Sends a command to whatever is connected. -/
def carry (exchange : Exchange) : StateT World IO Carried := do
  match (← get).connection with
  | .none => return { result := .error .transportFailed }
  | .inMemory device =>
    let (device, reply) := device.handle (Draw.ofEntropy (← entropy)) exchange.command
    modify fun world => { world with connection := .inMemory device }
    return { result := .ok reply.toResponse, warnings := reply.warnings }
  | .remote socket transport =>
    let (result, transport) ← exchangeOver socket exchange transport
    modify fun world => { world with connection := .remote socket transport }
    return { result }

/-- Starts a device in memory. Nobody else can reach it, so its endpoint is only a name. -/
def startDevice : StateT World IO (Except Failure Endpoint) := do
  match DeviceConfig.testMode Ecdsa.scheme with
  | .error cause => return .error (.ofError cause)
  | .ok config =>
    let device := Device.new config (Draw.ofEntropy (← entropy))
    modify fun world => { world with started := some device }
    return .ok ⟨.loopback, defaultPort⟩

/-- Connects to the device that was started, or over the network if there is none. -/
def connect (endpoint : Endpoint) (timeout : Nat) : StateT World IO (Except Error Unit) := do
  match (← get).started with
  | some device =>
    set { connection := .inMemory device : World }
    return .ok ()
  | none =>
    match ← openSocket endpoint timeout with
    | .error cause => return .error cause
    | .ok socket =>
      set { connection := .remote socket { stream := { incoming := [] } } : World }
      return .ok ()

/-- Writes a file. -/
def save (path content : String) : IO (Except IoFault Unit) := do
  try
    IO.FS.writeFile path content
    return .ok ()
  catch fault => return .error (faultOf fault)

/-- Answers what a program asks for. -/
def answer : (effect : Effect) → StateT World IO effect.Answer
  | .startDevice => startDevice
  | .connect endpoint timeout => connect endpoint timeout
  | .exchange exchange => carry exchange
  | .log level line => printLine level line
  | .save path content => save path content
  | .draw => entropy

/-- Runs a program, and shows why it fails. -/
def run (program : Program Unit) : IO UInt32 := do
  let (result, _) ← (Dialog.hold answer program.run).run {}
  match result with
  | .ok () => return 0
  | .error failure => do
    IO.eprintln failure.report
    return 1

/-- The environment variables that the tools look at, as far as they are set. -/
def readEnvironment : IO (String → Option String) := do
  let names := ["SPECULOS_ADDR", "SPECULOS_APDU_PORT", "LOG_LEVEL"]
  let values ← names.mapM fun name => do return (name, ← IO.getEnv name)
  return fun name => (values.lookup name).join

/-- The program that the words of the command line ask for. -/
def readProgram (environment : String → Option String) (words : List String) :
    Except CommandLine.ArgumentFault (Program Unit) :=
  match words with
  | "rehearse" :: rest => CommandLine.RehearsalTool.program Ecdsa.scheme environment rest
  | words => CommandLine.SigningTool.program Ecdsa.scheme environment words

/-- How the command is used. -/
def usage : String :=
  let tasks (subcommands : List String) : String := "|".intercalate subcommands
  "usage: countersign (" ++ tasks CommandLine.SigningTool.grammar.subcommands ++ ")\n" ++
    "       countersign rehearse (" ++ tasks CommandLine.RehearsalTool.grammar.subcommands ++ ")"

/-- Shows why a command line is not carried out. -/
def explain (fault : CommandLine.ArgumentFault) : IO Unit :=
  match fault with
  | .help => IO.println usage
  | fault => IO.eprintln (fault.report?.getD usage)

end Countersign.Outside

/-- The command. -/
def main (words : List String) : IO UInt32 := do
  match Countersign.Outside.readProgram (← Countersign.Outside.readEnvironment) words with
  | .ok program => Countersign.Outside.run program
  | .error fault => do
    Countersign.Outside.explain fault
    return fault.exitCode

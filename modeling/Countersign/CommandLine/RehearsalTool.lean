/-
# The rehearsal tool

The command that plays one rehearsal with a device, either one that listens somewhere or one that
is started for the occasion.
-/

import Countersign.CommandLine.Settings
import Countersign.Rehearsal

namespace Countersign.CommandLine.RehearsalTool

/-- A rehearsal that can be asked for. -/
inductive Task where
  | version
  | partner
  | wrongRoot (flow : Flow)
  | tampered
  | currency
  | trustedName
  deriving DecidableEq, Repr

/-- The name under which a rehearsal is shown. -/
def Task.label : Task → String
  | version => "Version"
  | partner => "Partner"
  | wrongRoot _ => "WrongRoot"
  | tampered => "Tampered"
  | currency => "Currency"
  | trustedName => "TrustedName"

/-- The arguments of a rehearsal that needs none. -/
def noArguments : Grammar Unit where
  named := []

/-- The arguments of `Task.wrongRoot`. -/
def flowGrammar : Grammar Flow where
  named :=
    [{ name := "subcommand",
       action := .take (takeRead (readVariant Flow.ofName?) fun flow _ => flow) }]

/-- Reads the name of a rehearsal and its arguments. -/
def readTask (name : String) (words : List String) : Except ArgumentFault Task :=
  let plain (task : Task) : Except ArgumentFault Task :=
    (noArguments.readAll () words).map fun _ => task
  match name with
  | "version" => plain .version
  | "partner" => plain .partner
  | "wrong-root" => (flowGrammar.readAll .swap words).map .wrongRoot
  | "tampered" => plain .tampered
  | "currency" => plain .currency
  | "trusted-name" => plain .trustedName
  | _ => .error .misuse

/-- The arguments of the tool. -/
def grammar : Grammar Settings where
  named := [Settings.mockArgument, Settings.addressArgument, Settings.portArgument,
    Settings.timeoutArgument, Settings.logLevelArgument (some "LOG_LEVEL")]
  subcommands := ["version", "partner", "wrong-root", "tampered", "currency", "trusted-name",
    helpName]

variable (S : SignatureScheme)

/-- The rehearsal itself. -/
def rehearse : Task → Program Unit
  | .version => Rehearsal.version
  | .partner => Rehearsal.partner S
  | .wrongRoot flow => Rehearsal.wrongRoot S flow
  | .tampered => Rehearsal.tampered S
  | .currency => Rehearsal.currency S
  | .trustedName => Rehearsal.trustedName S

/-- Where the device is and how long to wait for the connection. -/
def chooseDevice (settings : Settings) : Program (Endpoint × Nat) := do
  if settings.mock then
    match ← Program.ask .startDevice with
    | .ok endpoint => pure (endpoint, defaultTimeout)
    | .error failure => throw failure
  else pure (settings.endpoint, settings.timeout)

/-- Plays a rehearsal with the device of the settings. -/
def perform (settings : Settings) (task : Task) : Program Unit := do
  let (endpoint, timeout) ← chooseDevice settings
  Program.info ("Running test '" ++ task.label ++ "' via " ++ endpoint.text)
  Program.ofResult (← Program.ask (.connect endpoint timeout))
  rehearse S task
  Program.info "Test OK!"

/-- The program for a command line. -/
def program (environment : String → Option String) (words : List String) :
    Except ArgumentFault (Program Unit) := do
  let (settings, task) ← grammar.readCommandLine environment { logLevel := .debug } readTask words
  .ok ((perform S settings task).quieted settings.logLevel)

end Countersign.CommandLine.RehearsalTool

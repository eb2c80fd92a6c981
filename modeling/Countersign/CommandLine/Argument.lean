/-
# Arguments

The words of a command line are read from left to right. A word that begins with two dashes names
an argument, whose value is the next word or stands after an equals sign in the same one; another
word is the name of a subcommand or a positional argument. After a word of two dashes alone every
word is positional.

A value that stands in a word of its own is taken in only when the next argument begins or the
words end: a mistake in between is noticed before a bad value. A value after an equals sign is
taken in at once. No argument may be given twice.
-/

import Countersign.Text.ControlSequence

namespace Countersign.CommandLine

/-- Why the words of a command line are not carried out. -/
inductive ArgumentFault where
  /-- The user asked for help. -/
  | help
  /-- A value does not have the form that its argument asks for. -/
  | invalidValue (value argument reason : String)
  /-- The words do not fit together. -/
  | misuse
  deriving DecidableEq, Repr

namespace ArgumentFault

/-- What is shown to the user about a bad value. The value may come from anywhere, so it is shown
without control sequences. -/
def report? : ArgumentFault → Option String
  | invalidValue value argument reason =>
    some ("error: invalid value '" ++ Text.withoutControls value ++ "' for '" ++ argument ++
      "': " ++ reason)
  | help | misuse => none

/-- The exit code: asking for help is no error. -/
def exitCode : ArgumentFault → UInt32
  | help => 0
  | invalidValue .. | misuse => 2

end ArgumentFault

/-- How a value becomes part of what is being read, or why it does not. -/
abbrev TakeIn (Draft : Type) : Type :=
  String → Draft → Except String Draft

/-- What an argument does. -/
inductive ArgumentAction (Draft : Type) where
  /-- It stands for itself. -/
  | mark (apply : Draft → Draft)
  /-- It takes a value. -/
  | take (apply : TakeIn Draft)

/-- An argument with a name. -/
structure NamedArgument (Draft : Type) where
  /-- The name, without dashes. -/
  name : String
  action : ArgumentAction Draft
  /-- The environment variable that stands in for the argument. -/
  variableName : Option String := none
  /-- Whether the argument has to be given. -/
  required : Bool := false

/-- The placeholder for a value: the name in capitals. -/
def placeholder (name : String) : String :=
  "<" ++ name.map (fun c => if c = '-' then '_' else c.toUpper) ++ ">"

/-- An argument as it is shown. -/
def NamedArgument.label {Draft : Type} (argument : NamedArgument Draft) : String :=
  match argument.action with
  | .mark _ => "--" ++ argument.name
  | .take _ => "--" ++ argument.name ++ " " ++ placeholder argument.name

/-- An argument without a name, which always has to be given. -/
structure PositionalArgument (Draft : Type) where
  /-- What it is called in messages. -/
  name : String
  apply : TakeIn Draft

/-- A positional argument as it is shown. -/
def PositionalArgument.label {Draft : Type} (argument : PositionalArgument Draft) : String :=
  placeholder argument.name

/-- The arguments and subcommands that are understood. -/
structure Grammar (Draft : Type) where
  named : List (NamedArgument Draft)
  positional : Option (PositionalArgument Draft) := none
  subcommands : List String := []

/-- A value that is not taken in yet, or an argument that still waits for its value. -/
structure PendingValue (Draft : Type) where
  label : String
  value : Option String
  apply : TakeIn Draft

/-- What has been read so far. -/
structure Reading (Draft : Type) where
  draft : Draft
  /-- The arguments that are taken in. -/
  given : List String := []
  pending : Option (PendingValue Draft) := none

namespace Reading

variable {Draft : Type}

/-- Takes in an argument that was not given before. -/
def takeOnce (label : String) (apply : Draft → Except ArgumentFault Draft)
    (reading : Reading Draft) : Except ArgumentFault (Reading Draft) :=
  if reading.given.contains label then .error .misuse
  else
    (apply reading.draft).map fun draft =>
      { reading with draft, given := label :: reading.given }

/-- Takes in the value of an argument. -/
def takeValue (label value : String) (apply : TakeIn Draft) (reading : Reading Draft) :
    Except ArgumentFault (Reading Draft) :=
  reading.takeOnce label fun draft =>
    (apply value draft).mapError (.invalidValue value label)

/-- Takes in the value that is pending, if there is one. -/
def settle (reading : Reading Draft) : Except ArgumentFault (Reading Draft) :=
  match reading.pending with
  | none => .ok reading
  | some { value := none, .. } => .error .misuse
  | some { label, value := some value, apply } =>
    { reading with pending := none }.takeValue label value apply

/-- Whether an argument waits for its value. -/
def isAwaiting (reading : Reading Draft) : Bool :=
  reading.pending.any (·.value.isNone)

/-- Gives the awaited value. -/
def supply (value : String) (reading : Reading Draft) : Reading Draft :=
  { reading with pending := reading.pending.map fun pending => { pending with value := value } }

/-- Whether an argument has been given, be its value taken in or not. -/
def hasGiven (label : String) (reading : Reading Draft) : Bool :=
  reading.given.contains label || reading.pending.any (·.label == label)

end Reading

/-- What kind of word a word is. -/
inductive Word where
  /-- Two dashes alone. -/
  | escape
  /-- The name of an argument, with a value after an equals sign. -/
  | argument (name : String) (value : Option String)
  /-- A dash and letters. -/
  | letters (first : Char)
  /-- Any other word. -/
  | plain
  deriving DecidableEq, Repr

/-- The name before the first equals sign, and the value after it. -/
def splitValue (characters : List Char) : String × Option String :=
  let name := characters.takeWhile (· != '=')
  match characters.drop name.length with
  | [] => (String.ofList name, none)
  | _ :: value => (String.ofList name, some (String.ofList value))

/-- The kind of a word. A dash alone is a plain word. -/
def Word.ofText (text : String) : Word :=
  match text.toList with
  | ['-', '-'] => .escape
  | '-' :: '-' :: rest =>
    let (name, value) := splitValue rest
    .argument name value
  | '-' :: first :: _ => .letters first
  | _ => .plain

/-- The name of the argument and of the subcommand that show help. -/
def helpName : String := "help"

namespace Grammar

variable {Draft : Type} (grammar : Grammar Draft)

/-- Takes up a named argument. -/
def takeNamed (name : String) (value : Option String) (reading : Reading Draft) :
    Except ArgumentFault (Reading Draft) :=
  match grammar.named.find? (·.name == name) with
  | none =>
    if name = helpName ∧ value.isNone then reading.settle.bind fun _ => .error .help
    else .error .misuse
  | some argument =>
    match argument.action, value with
    | .mark _, some _ => .error .misuse
    | .mark apply, none =>
      reading.settle.bind (·.takeOnce argument.label fun draft => .ok (apply draft))
    | .take apply, some value => reading.settle.bind (·.takeValue argument.label value apply)
    | .take apply, none =>
      reading.settle.map fun reading =>
        { reading with pending := some ⟨argument.label, none, apply⟩ }

/-- Takes up a positional argument. -/
def takePositional (word : String) (reading : Reading Draft) :
    Except ArgumentFault (Reading Draft) :=
  match grammar.positional with
  | none => .error .misuse
  | some argument =>
    if reading.hasGiven argument.label then .error .misuse
    else
      reading.settle.map fun reading =>
        { reading with pending := some ⟨argument.label, some word, argument.apply⟩ }

/-- Reads words up to the first subcommand, which is returned with the words after it. -/
def readWords (reading : Reading Draft) :
    List String → Except ArgumentFault (Reading Draft × Option (String × List String))
  | [] => .ok (reading, none)
  | word :: rest =>
    if !reading.isAwaiting ∧ grammar.subcommands.contains word then
      .ok (reading, some (word, rest))
    else
      match Word.ofText word with
      | .escape =>
        (rest.foldlM (fun reading word => grammar.takePositional word reading) reading).map
          fun reading => (reading, none)
      | .argument name value => (grammar.takeNamed name value reading).bind (readWords · rest)
      | .letters first =>
        if first = 'h' then reading.settle.bind fun _ => .error .help else .error .misuse
      | .plain =>
        if reading.isAwaiting then readWords (reading.supply word) rest
        else (grammar.takePositional word reading).bind (readWords · rest)

/-- The arguments that have to be given. -/
def requiredLabels : List String :=
  (grammar.named.filter (·.required)).map NamedArgument.label ++
    grammar.positional.toList.map PositionalArgument.label

/-- Reads all words of a command without subcommands. -/
def readAll (start : Draft) (words : List String) : Except ArgumentFault Draft := do
  let (reading, _) ← grammar.readWords { draft := start } words
  let reading ← reading.settle
  if grammar.requiredLabels.all reading.given.contains then .ok reading.draft
  else .error .misuse

/-- Takes in the environment variable of an argument that was not given. -/
def takeVariable (environment : String → Option String) (reading : Reading Draft)
    (argument : NamedArgument Draft) : Except ArgumentFault (Reading Draft) :=
  match argument.action, argument.variableName.bind environment with
  | .take apply, some value =>
    if reading.given.contains argument.label then .ok reading
    else reading.takeValue argument.label value apply
  | _, _ => .ok reading

/-- Shows help about a subcommand, if the words after `help` name one. -/
def helpAbout : List String → ArgumentFault
  | [] => .help
  | [name] => if grammar.subcommands.contains name then .help else .misuse
  | _ => .misuse

/-- Reads a command line that ends in a subcommand. Mistakes in the subcommand are noticed first,
then those in the arguments before it, and those in the environment last. -/
def readCommandLine {Task : Type} (environment : String → Option String) (start : Draft)
    (readTask : String → List String → Except ArgumentFault Task) (words : List String) :
    Except ArgumentFault (Draft × Task) := do
  let (reading, subcommand) ← grammar.readWords { draft := start } words
  let task ← match subcommand with
    | none => pure none
    | some (name, rest) =>
      if name = helpName then throw (grammar.helpAbout rest)
      else some <$> readTask name rest
  let reading ← reading.settle
  let reading ← grammar.named.foldlM (takeVariable environment) reading
  match task with
  | none => .error .misuse
  | some task => .ok (reading.draft, task)

end Grammar

end Countersign.CommandLine

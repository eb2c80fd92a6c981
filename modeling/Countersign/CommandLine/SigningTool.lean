/-
# The signing tool

The commands that make credentials, signatures, currency configurations and trusted name
descriptors, and the ones that hand them to a device.
-/

import Countersign.CommandLine.Output
import Countersign.CommandLine.Settings
import Countersign.Currency.Bundle
import Countersign.Root
import Countersign.TrustedName.Descriptor

namespace Countersign.CommandLine.SigningTool

/-- Shows the credentials of an authority. -/
structure CredentialsTask where
  name : String := ""
  curve : Curve := .secp256r1
  /-- The secret of the authority; a fresh one is drawn if there is none. -/
  secret : Option Bytes := none
  output : Option String := none

/-- Signs a payload. -/
structure SignTask where
  payload : Bytes := []
  /-- The secret of the signer; the test root signs if there is none. -/
  secret : Option Bytes := none
  curve : Curve := .secp256k1

/-- Makes and signs a currency configuration. -/
structure CurrencyTask where
  ticker : String := ""
  application : String := ""
  /-- The ticker of the coin, if it is not the main ticker. -/
  coinTicker : Option String := none
  decimals : UInt8 := 18
  chainId : Option UInt64 := none
  path : Bytes := ethereumPath
  /-- Whether a root signs that no device trusts. -/
  randomRoot : Bool := false
  output : Option String := none

/-- Makes a trusted name descriptor, and sends it unless it is only to be shown. -/
structure TrustedNameTask where
  name : String := ""
  address : Bytes := []
  chainId : UInt64 := 1
  /-- The challenge; the device is asked for one if there is none. -/
  challenge : Option UInt32 := none
  offline : Bool := false

/-- Starts a transaction and registers a fresh partner. -/
structure RegisterTask where
  name : String := "partner"
  rate : Rate := .fixed
  flow : Flow := .swapNg
  /-- Whether a root vouches for the partner that no device trusts. -/
  randomRoot : Bool := false

/-- Sends a command as it is. -/
structure RawTask where
  command : Bytes := []

/-- What the tool can do. -/
inductive Task where
  | credentials (task : CredentialsTask)
  | sign (task : SignTask)
  | currency (task : CurrencyTask)
  | trustedName (task : TrustedNameTask)
  | register (task : RegisterTask)
  | raw (task : RawTask)

/-! ## Arguments -/

/-- The arguments of `CredentialsTask`. -/
def credentialsGrammar : Grammar CredentialsTask where
  named :=
    [{ name := "name", required := true,
       action := .take (takeRead readText fun name task => { task with name }) },
     { name := "curve",
       action := .take (takeRead (readVariant Curve.ofName?) fun curve task =>
        { task with curve }) },
     { name := "secret",
       action := .take (takeRead readHex fun secret task => { task with secret := some secret }) },
     { name := "output",
       action := .take (takeRead readText fun output task =>
        { task with output := some output }) }]

/-- The arguments of `SignTask`. -/
def signGrammar : Grammar SignTask where
  named :=
    [{ name := "payload", required := true,
       action := .take (takeRead readHex fun payload task => { task with payload }) },
     { name := "secret",
       action := .take (takeRead readHex fun secret task => { task with secret := some secret }) },
     { name := "curve",
       action := .take (takeRead (readVariant Curve.ofName?) fun curve task =>
        { task with curve }) }]

/-- The arguments of `CurrencyTask`. -/
def currencyGrammar : Grammar CurrencyTask where
  named :=
    [{ name := "ticker", required := true,
       action := .take (takeRead readText fun ticker task => { task with ticker }) },
     { name := "application", required := true,
       action := .take (takeRead readText fun application task => { task with application }) },
     { name := "sub-ticker",
       action := .take (takeRead readText fun ticker task =>
        { task with coinTicker := some ticker }) },
     { name := "decimals",
       action := .take (takeRead (readUpTo 255) fun decimals task =>
        { task with decimals := UInt8.ofNat decimals }) },
     { name := "chain-id",
       action := .take (takeRead readUpToMax fun chainId task =>
        { task with chainId := some (UInt64.ofNat chainId) }) },
     { name := "packed-path",
       action := .take (takeRead readHex fun path task => { task with path }) },
     { name := "random-root", action := .mark fun task => { task with randomRoot := true } },
     { name := "output",
       action := .take (takeRead readText fun output task =>
        { task with output := some output }) }]

/-- The arguments of `TrustedNameTask`. -/
def trustedNameGrammar : Grammar TrustedNameTask where
  named :=
    [{ name := "name", required := true,
       action := .take (takeRead readText fun name task => { task with name }) },
     { name := "address", required := true,
       action := .take (takeRead readHex fun address task => { task with address }) },
     { name := "chain-id",
       action := .take (takeRead readUpToMax fun chainId task =>
        { task with chainId := UInt64.ofNat chainId }) },
     { name := "challenge",
       action := .take (takeRead (readUpTo 4294967295) fun challenge task =>
        { task with challenge := some (UInt32.ofNat challenge) }) },
     { name := "offline", action := .mark fun task => { task with offline := true } }]

/-- The arguments of `RegisterTask`. -/
def registerGrammar : Grammar RegisterTask where
  named :=
    [{ name := "name", action := .take (takeRead readText fun name task => { task with name }) },
     { name := "rate",
       action := .take (takeRead (readVariant Rate.ofName?) fun rate task => { task with rate }) },
     { name := "subcommand",
       action := .take (takeRead (readVariant Flow.ofName?) fun flow task => { task with flow }) },
     { name := "random-root", action := .mark fun task => { task with randomRoot := true } }]

/-- The arguments of `RawTask`. -/
def rawGrammar : Grammar RawTask where
  named := []
  positional := some
    { name := "apdu", apply := takeRead readHex fun command task => { task with command } }

/-- Reads a subcommand of the tool. -/
def readTask (name : String) (words : List String) : Except ArgumentFault Task :=
  match name with
  | "credentials" => (credentialsGrammar.readAll {} words).map .credentials
  | "sign" => (signGrammar.readAll {} words).map .sign
  | "currency-config" => (currencyGrammar.readAll {} words).map .currency
  | "trusted-name" => (trustedNameGrammar.readAll {} words).map .trustedName
  | "register-partner" => (registerGrammar.readAll {} words).map .register
  | "raw" => (rawGrammar.readAll {} words).map .raw
  | _ => .error .misuse

/-- The arguments of the tool. -/
def grammar : Grammar Settings where
  named := [Settings.addressArgument, Settings.portArgument, Settings.timeoutArgument,
    Settings.logLevelArgument none]
  subcommands := ["credentials", "sign", "currency-config", "trusted-name", "register-partner",
    "raw", helpName]

/-! ## Commands -/

variable (S : SignatureScheme)

/-- Connects to the device of the settings. -/
def connect (settings : Settings) : Program Handle := do
  Program.ofResult (← Program.ask (.connect settings.endpoint settings.timeout))
  pure { timeout := settings.timeout }

/-- A root with a fresh key, or the test root. -/
def chooseRoot (isRandom : Bool) : Program (Authority S) := do
  if isRandom then
    let entropy ← Program.draw
    Program.ofResult (freshRoot S entropy)
  else Program.ofResult (testRoot S)

/-- Shows the credentials of an authority. -/
def showCredentials (task : CredentialsTask) : Program Unit := do
  let authority ← match task.secret with
    | some secret => Program.ofResult (Authority.ofSecret S task.curve task.name secret)
    | none => do
      let entropy ← Program.draw
      Program.ofResult (Authority.fresh S task.curve task.name entropy)
  let point := Hex.encode authority.point
  let credentials := Hex.encode authority.credentials
  let credentialsNg := Hex.encode authority.credentialsNg
  Program.info ("public key: " ++ point)
  Program.info ("credentials: " ++ credentials)
  Program.info ("credentials (ng): " ++ credentialsNg)
  saveRecord task.output
    [("name", authority.name), ("curve", authority.curve.name), ("public_key", point),
      ("credentials", credentials), ("credentials_ng", credentialsNg)]

/-- Signs a payload. -/
def sign (task : SignTask) : Program Unit := do
  let authority ← match task.secret with
    | some secret => Program.ofResult (Authority.ofSecret S task.curve "signer" secret)
    | none => Program.ofResult (testRoot S)
  let entropy ← Program.draw
  Program.info ("signature: " ++ Hex.encode (authority.sign entropy task.payload))

/-- Makes and signs a currency configuration. -/
def signCurrency (task : CurrencyTask) : Program Unit := do
  let coin := CoinConfig.plain (task.coinTicker.getD task.ticker) task.decimals task.chainId
  let subConfig ← Program.ofWritten (encode coin)
  let bundle ← Program.ofResult
    (CurrencyBundle.ofParts task.ticker task.application subConfig task.path)
  let root ← chooseRoot S task.randomRoot
  let entropy ← Program.draw
  let signature ← Program.ofResult (bundle.sign (some root) entropy)
  let payload ← Program.ofWritten (encode (bundle.toCheck signature))
  Program.info ("conf: " ++ Hex.encode bundle.config)
  Program.info ("signature: " ++ Hex.encode signature)
  Program.info ("payload: " ++ Hex.encode payload)
  saveRecord task.output
    [("ticker", bundle.ticker), ("conf", Hex.encode bundle.config),
      ("signature", Hex.encode signature), ("packed_path", Hex.encode bundle.path),
      ("payload", Hex.encode payload)]

/-- The challenge of a descriptor: the given one, or the one of the device if there is a device. -/
def chooseChallenge (task : TrustedNameTask) (handle : Option Handle) : Program UInt32 :=
  match task.challenge, handle with
  | some challenge, _ => pure challenge
  | none, some handle => Program.ofClient handle.challenge
  | none, none => throw { message := "offline mode requires a challenge" }

/-- Makes a trusted name descriptor, and sends it unless it is only to be shown. -/
def signTrustedName (settings : Settings) (task : TrustedNameTask) : Program Unit := do
  let handle ← if task.offline then pure none else some <$> connect settings
  let challenge ← chooseChallenge task handle
  let descriptor := TrustedNameDescriptor.standard (Bytes.ofText task.name) task.address
    task.chainId challenge
  let root ← Program.ofResult (testRoot S)
  let entropy ← Program.draw
  let complete ← Program.ofWritten
    (descriptor.withSignature (root.sign entropy descriptor.signedPayload))
  Program.info ("descriptor: " ++ Hex.encode complete)
  match handle with
  | none => pure ()
  | some handle =>
    Program.ofClient (handle.sendTrustedName complete)
    Program.info "descriptor accepted"

/-- Starts a transaction and registers a fresh partner. -/
def registerPartner (settings : Settings) (task : RegisterTask) : Program Unit := do
  let handle := (← connect settings).withFlow task.rate task.flow
  let entropy ← Program.draw
  let partner ← Program.ofResult (Authority.fresh S task.flow.partnerCurve task.name entropy)
  let root ← chooseRoot S task.randomRoot
  let version ← Program.ofClient handle.version
  Program.info ("app version: " ++ version.text)
  let id ← Program.ofClient handle.startTransaction
  Program.info ("transaction id: " ++ Hex.encode id)
  let entropy ← Program.draw
  Program.ofClient (handle.register partner root entropy)
  Program.info ("partner '" ++ partner.name ++ "' registered")

/-- Sends a command as it is. -/
def sendRaw (settings : Settings) (task : RawTask) : Program Unit := do
  let handle ← connect settings
  let response ← Program.ofClient (handle.exchange task.command)
  Program.info ("data: " ++ Hex.encode response.data)
  Program.info ("status: " ++ Text.hexNumber 4 response.status.toNat ++ " (" ++
    StatusWord.shownOption response.statusWord? ++ ")")

/-- Carries out a task. -/
def perform (settings : Settings) : Task → Program Unit
  | .credentials task => showCredentials S task
  | .sign task => sign S task
  | .currency task => signCurrency S task
  | .trustedName task => signTrustedName S settings task
  | .register task => registerPartner S settings task
  | .raw task => sendRaw settings task

/-- The program for a command line. -/
def program (environment : String → Option String) (words : List String) :
    Except ArgumentFault (Program Unit) := do
  let (settings, task) ← grammar.readCommandLine environment { logLevel := .info } readTask words
  .ok ((perform S settings task).quieted settings.logLevel)

end Countersign.CommandLine.SigningTool

/-
# Rehearsals

A rehearsal plays one part of the protocol with a connected device and fails if the device does
not behave as a device in test mode has to: partners are registered, what another root has signed
is refused, addresses are checked, and every trusted name descriptor needs a challenge of its own.
-/

import Countersign.Currency.Bundle
import Countersign.Program
import Countersign.Root
import Countersign.TrustedName.Descriptor

namespace Countersign.Rehearsal

variable (S : SignatureScheme)

/-- A handle for the flow at a fixed rate. -/
def handleFor (flow : Flow) : Handle :=
  { flow }

/-- A partner with a fresh key on the curve of the flow. -/
def freshPartner (flow : Flow) : Program (Authority S) := do
  let entropy ← Program.draw
  Program.ofResult (Authority.fresh S flow.partnerCurve "partner" entropy)

/-- A root with a fresh key. -/
def unknownRoot : Program (Authority S) := do
  let entropy ← Program.draw
  Program.ofResult (freshRoot S entropy)

/-- Whether the device refused a signature. -/
def refusesSignature : Except Error Unit → Bool
  | .error failure => failure.statusWord? == some .signVerificationFail
  | .ok () => false

/-- Asks for the version of the application. -/
def version : Program Unit := do
  let version ← Program.ofClient (handleFor .swap).version
  Program.info ("app version: " ++ version.text)

/-- Registers a partner for one flow. -/
def registerPartner (root : Authority S) (flow : Flow) : Program Unit := do
  let handle := handleFor flow
  let partner ← freshPartner S flow
  Program.info ("registering partner (" ++ partner.curve.name ++ ") for " ++ flow.name)
  let id ← Program.ofClient handle.startTransaction
  Program.info ("transaction id: " ++ Hex.encode id)
  let entropy ← Program.draw
  Program.ofClient (handle.register partner root entropy)

/-- Registers a partner for every flow. -/
def partner : Program Unit := do
  let root ← Program.ofResult (testRoot S)
  Flow.all.forM (registerPartner S root)

/-- Checks that a partner is refused for whom an unknown root vouches. -/
def wrongRoot (flow : Flow) : Program Unit := do
  let handle := (handleFor flow).withFlow .floating flow
  let partner ← freshPartner S flow
  let root ← unknownRoot S
  let _ ← Program.ofClient handle.startTransaction
  let entropy ← Program.draw
  let outcome ← Program.attempt (handle.register partner root entropy)
  Program.info ("registration with random root: " ++ Error.outcomeLabel outcome)
  if refusesSignature outcome then pure ()
  else
    match outcome with
    | .error failure => throw { message := "unexpected error: " ++ failure.message }
    | .ok () => throw { message := "partner signed by random root accepted" }

/-- Fails unless the device refused a signature. -/
def expectRefusal (outcome : Except Error Unit) : Program Unit :=
  if refusesSignature outcome then pure ()
  else throw { message := "unexpected response: " ++ Error.outcomeLabel outcome }

/-- Checks that a signature over the credentials of one partner does not vouch for another. -/
def tampered : Program Unit := do
  let handle := handleFor .sellNg
  let partner ← freshPartner S .sellNg
  let other ← freshPartner S .sellNg
  let root ← Program.ofResult (testRoot S)
  let _ ← Program.ofClient handle.startTransaction
  Program.ofClient (handle.setPartnerKey partner.credentialsNg)
  let entropy ← Program.draw
  expectRefusal
    (← Program.attempt (handle.checkPartner (root.sign entropy other.credentialsNg)))

/-- The configuration of Ether. -/
def ether : Except Error CurrencyBundle :=
  CurrencyBundle.evm "ETH" "Ethereum" 18 1 ethereumPath

/-- Checks addresses with a configuration that the root has signed, and that one which an unknown
root has signed is refused. -/
def currency : Program Unit := do
  let handle := handleFor .swapNg
  let root ← Program.ofResult (testRoot S)
  let partner ← freshPartner S .swapNg
  let _ ← Program.ofClient handle.startTransaction
  let entropy ← Program.draw
  Program.ofClient (handle.register partner root entropy)
  let bundle ← Program.ofResult ether
  Program.info ("currency configuration: " ++ Hex.encode bundle.config)
  let entropy ← Program.draw
  let signature ← Program.ofResult (bundle.sign (some root) entropy)
  Program.ofClient (handle.checkPayoutAddress (bundle.toCheck signature))
  Program.ofClient (handle.checkRefundAddress (bundle.toCheck signature))
  let other ← unknownRoot S
  let entropy ← Program.draw
  let signature ← Program.ofResult (bundle.sign (some other) entropy)
  expectRefusal (← Program.attempt (handle.checkPayoutAddress (bundle.toCheck signature)))

/-- The descriptor that is used in the rehearsal of trusted names. -/
def sampleDescriptor (challenge : UInt32) : TrustedNameDescriptor :=
  .standard (Bytes.ofText "bob.eth")
    (Bytes.ofText "0xd8dA6BF26964aF9D7eEd9e03E53415D37aA96045") 1 challenge

/-- A descriptor with a signature. -/
def signDescriptor (descriptor : TrustedNameDescriptor) (root : Authority S) : Program Bytes := do
  let entropy ← Program.draw
  Program.ofWritten (descriptor.withSignature (root.sign entropy descriptor.signedPayload))

/-- Sends a descriptor that the device has to refuse. -/
def expectRejected (case : String) (descriptor : Bytes) : Program Unit := do
  match ← Program.attempt (({} : Handle).sendTrustedName descriptor) with
  | .error (.status code) =>
    Program.info (case ++ ": rejected with " ++ StatusWord.shownOption (StatusWord.ofCode? code))
  | .error failure => throw (.ofError failure)
  | .ok () => throw { message := case ++ ": descriptor accepted" }

/-- Sends a descriptor made for a fresh challenge that the device has to refuse. -/
def expectVariantRejected (case : String) (root : Authority S)
    (variant : UInt32 → TrustedNameDescriptor) : Program Unit := do
  let challenge ← Program.ofClient ({} : Handle).challenge
  expectRejected case (← signDescriptor S (variant challenge) root)

/-- Checks that a descriptor is accepted once, and that replayed, incomplete and wrongly signed
ones are refused. -/
def trustedName : Program Unit := do
  let handle : Handle := {}
  let root ← Program.ofResult (testRoot S)
  let challenge ← Program.ofClient handle.challenge
  let valid ← signDescriptor S (sampleDescriptor challenge) root
  Program.ofClient (handle.sendTrustedName valid)
  expectRejected "replay" valid
  expectVariantRejected S "wrong challenge" root fun challenge => sampleDescriptor (challenge + 1)
  expectVariantRejected S "missing challenge" root fun challenge =>
    (sampleDescriptor challenge).without .challenge
  expectVariantRejected S "missing address" root fun challenge =>
    (sampleDescriptor challenge).without .address
  expectVariantRejected S "prod key id" root fun challenge =>
    (sampleDescriptor challenge).withKeyId .prod
  let challenge ← Program.ofClient handle.challenge
  let other ← unknownRoot S
  expectRejected "random root" (← signDescriptor S (sampleDescriptor challenge) other)
  let challenge ← Program.ofClient handle.challenge
  let last ← signDescriptor S (sampleDescriptor challenge) root
  Program.ofClient (handle.sendTrustedName last)

end Countersign.Rehearsal

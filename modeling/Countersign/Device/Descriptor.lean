/-
# What a device asks of a trusted name descriptor

A device in test mode accepts a descriptor only in one version, for names of contexts that a
dynamic resolver vouches for, with its own current challenge, and signed by its root with the test
key. The first thing that is wrong decides how the descriptor is refused.
-/

import Countersign.Authority
import Countersign.TrustedName.Info

namespace Countersign

/-- Why a device refuses a trusted name descriptor. -/
inductive DescriptorFault where
  /-- The bytes are no descriptor. -/
  | malformed (cause : WireError)
  | unsupportedVersion (version : UInt8)
  | unsupportedType (nameType : UInt8)
  | unsupportedSource (nameSource : UInt8)
  /-- The name or the address is longer than the device can show. -/
  | tooLong
  /-- The descriptor does not contain the current challenge. -/
  | challengeMismatch (found : Option UInt32)
  | unknownKey (keyId : UInt8)
  | unsupportedAlgorithm (algo : UInt8)
  /-- The signature is not by the root. -/
  | rejectedSignature (cause : Error)
  deriving DecidableEq, Repr

namespace DescriptorFault

/-- A challenge as it is shown in a message. -/
def challengeText : Option UInt32 → String
  | none => "None"
  | some challenge => "Some(" ++ Text.hexDigits challenge.toNat ++ ")"

/-- The text shown for a refused descriptor. -/
def message : DescriptorFault → String
  | malformed cause => cause.message
  | unsupportedVersion version => "unsupported version: " ++ toString version.toNat
  | unsupportedType nameType => "unsupported name type: " ++ toString nameType.toNat
  | unsupportedSource nameSource => "unsupported name source: " ++ toString nameSource.toNat
  | tooLong => "name or address too long"
  | challengeMismatch found => "challenge mismatch: " ++ challengeText found
  | unknownKey keyId => "unknown key id: " ++ toString keyId.toNat
  | unsupportedAlgorithm algo => "unsupported algorithm: " ++ toString algo.toNat
  | rejectedSignature cause => cause.message

end DescriptorFault

namespace TrustedNameInfo

variable (S : SignatureScheme)

/-- Checks the fields of a descriptor for a device with this challenge, all but the signature. -/
def checkFields (info : TrustedNameInfo) (challenge : UInt32) : Except DescriptorFault Unit :=
  if info.version ≠ trustedNameVersion then .error (.unsupportedVersion info.version)
  else if info.nameType ≠ TrustedNameType.contextAddress.code then
    .error (.unsupportedType info.nameType)
  else if info.nameSource ≠ TrustedNameSource.dynamicResolver.code then
    .error (.unsupportedSource info.nameSource)
  else if maxTrustedNameLength < info.trustedName.length ∨
      maxTrustedNameLength < info.address.length then .error .tooLong
  else if info.challenge ≠ some challenge then .error (.challengeMismatch info.challenge)
  else if info.keyId ≠ SignerKeyId.test.code then .error (.unknownKey info.keyId)
  else if info.algo ≠ signerAlgoEcdsaSha256 then .error (.unsupportedAlgorithm info.algo)
  else .ok ()

/-- Checks a whole descriptor for a device with this root and challenge. -/
def checkDescriptor (root : S.PublicKey) (challenge : UInt32) (descriptor : Bytes) :
    Except DescriptorFault Unit := do
  let info ← (parse descriptor).mapError .malformed
  info.checkFields challenge
  (checkSignature S root info.signed info.signature).mapError .rejectedSignature

end TrustedNameInfo

end Countersign

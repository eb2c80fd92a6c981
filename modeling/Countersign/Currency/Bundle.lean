/-
# Currency configurations ready to be signed

A bundle is an encoded currency configuration with the path of the address to be checked. Signed
by the root, it becomes the data of an address check.
-/

import Countersign.AddressCheck
import Countersign.Currency
import Countersign.Currency.Coin
import Countersign.Root

namespace Countersign

/-- The derivation path of the first address of the first Ethereum account. -/
def ethereumPath : Bytes :=
  [0x05, 0x80, 0x00, 0x00, 0x2c, 0x80, 0x00, 0x00, 0x3c, 0x80, 0x00, 0x00, 0x00, 0x00, 0x00, 0x00,
    0x00, 0x00, 0x00, 0x00, 0x00]

/-- An encoded currency configuration and the path of the address to be checked with it. -/
structure CurrencyBundle where
  /-- The main ticker. -/
  ticker : String
  /-- The encoded currency configuration. -/
  config : Bytes
  /-- The derivation path: a count and that many 32-bit numbers. -/
  path : Bytes
  deriving DecidableEq, Repr

namespace CurrencyBundle

/-- The bundle of the given parts. -/
def ofParts (ticker application : String) (subConfig path : Bytes) :
    Except Error CurrencyBundle :=
  match encode (⟨ticker, application, subConfig⟩ : CurrencyConfig) with
  | .error cause => .error (.wire cause)
  | .ok config => .ok ⟨ticker, config, path⟩

/-- The bundle of a coin on a chain with an id, under its own ticker. -/
def evm (ticker application : String) (decimals : UInt8) (chainId : UInt64) (path : Bytes) :
    Except Error CurrencyBundle :=
  match encode (CoinConfig.plain ticker decimals (some chainId)) with
  | .error cause => .error (.wire cause)
  | .ok subConfig => ofParts ticker application subConfig path

variable {S : SignatureScheme} (bundle : CurrencyBundle)

/-- The signature over the configuration, by the test root where no signer is given. -/
def sign (signer : Option (Authority S)) (entropy : Bytes) : Except Error Bytes :=
  signAs signer entropy bundle.config

/-- The address check with this signature. -/
def toCheck (signature : Bytes) : AddressCheck :=
  ⟨bundle.config, signature, bundle.path⟩

/-- The data of the address check, signed by the test root where no signer is given. -/
def signedPayload (signer : Option (Authority S)) (entropy : Bytes) : Except Error Bytes :=
  match bundle.sign signer entropy with
  | .error failure => .error failure
  | .ok signature => (encode (bundle.toCheck signature)).mapError .wire

end CurrencyBundle

end Countersign

/-
# Kinds, sources and signers of trusted names

The small numbers in a trusted name descriptor, and those of their values that a device in test
mode accepts.
-/

namespace Countersign

/-- What a trusted name stands for. -/
inductive TrustedNameType where
  | eoa
  | smartContract
  | collection
  | token
  | wallet
  | contextAddress
  deriving DecidableEq, Repr

namespace TrustedNameType

/-- Every type, in order. -/
def all : List TrustedNameType :=
  [eoa, smartContract, collection, token, wallet, contextAddress]

/-- The number of a type. -/
def code : TrustedNameType → UInt8
  | eoa => 0x01
  | smartContract => 0x02
  | collection => 0x03
  | token => 0x04
  | wallet => 0x05
  | contextAddress => 0x06

/-- The name under which a type is shown. -/
def name : TrustedNameType → String
  | eoa => "Eoa"
  | smartContract => "SmartContract"
  | collection => "Collection"
  | token => "Token"
  | wallet => "Wallet"
  | contextAddress => "ContextAddress"

/-- The type with this number. -/
def ofCode? (code : UInt8) : Option TrustedNameType :=
  all.find? (·.code == code)

/-- The type with this name, spelled exactly. -/
def ofName? (text : String) : Option TrustedNameType :=
  all.find? (·.name == text)

end TrustedNameType

/-- Where a trusted name comes from. -/
inductive TrustedNameSource where
  | localAddressBook
  | cryptoAssetList
  | ens
  | unstoppableDomains
  | freename
  | dns
  | dynamicResolver
  deriving DecidableEq, Repr

namespace TrustedNameSource

/-- Every source, in order. -/
def all : List TrustedNameSource :=
  [localAddressBook, cryptoAssetList, ens, unstoppableDomains, freename, dns, dynamicResolver]

/-- The number of a source. -/
def code : TrustedNameSource → UInt8
  | localAddressBook => 0x00
  | cryptoAssetList => 0x01
  | ens => 0x02
  | unstoppableDomains => 0x03
  | freename => 0x04
  | dns => 0x05
  | dynamicResolver => 0x06

/-- The name under which a source is shown. -/
def name : TrustedNameSource → String
  | localAddressBook => "LocalAddressBook"
  | cryptoAssetList => "CryptoAssetList"
  | ens => "Ens"
  | unstoppableDomains => "UnstoppableDomains"
  | freename => "Freename"
  | dns => "Dns"
  | dynamicResolver => "DynamicResolver"

/-- The source with this number. -/
def ofCode? (code : UInt8) : Option TrustedNameSource :=
  all.find? (·.code == code)

/-- The source with this name, spelled exactly. -/
def ofName? (text : String) : Option TrustedNameSource :=
  all.find? (·.name == text)

end TrustedNameSource

/-- Which key of the root signs descriptors. -/
inductive SignerKeyId where
  | test
  | prod
  deriving DecidableEq, Repr

namespace SignerKeyId

/-- Every key, in order. -/
def all : List SignerKeyId := [test, prod]

/-- The number of a key. -/
def code : SignerKeyId → UInt8
  | test => 0x00
  | prod => 0x03

/-- The name under which a key is given and shown. -/
def name : SignerKeyId → String
  | test => "Test"
  | prod => "Prod"

/-- The key with this number; a number without a key means the test key. -/
def ofCode (code : UInt8) : SignerKeyId :=
  (all.find? (·.code == code)).getD test

/-- The key with this name, spelled exactly. -/
def ofName? (text : String) : Option SignerKeyId :=
  all.find? (·.name == text)

end SignerKeyId

/-- The structure type of trusted name descriptors. -/
def trustedNameStructureType : UInt8 := 0x03

/-- The version of descriptors that is in use. -/
def trustedNameVersion : UInt8 := 0x02

/-- The longest trusted name, and the longest address, that a device accepts. -/
def maxTrustedNameLength : Nat := 44

/-- The number of the signature algorithm: ECDSA over SHA-256. -/
def signerAlgoEcdsaSha256 : UInt8 := 0x01

end Countersign

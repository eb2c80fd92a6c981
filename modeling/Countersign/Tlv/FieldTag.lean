/-
# Record tags of trusted name descriptors

Each field of a descriptor has its own tag. All of them are below `0x80` and thus take one byte.
-/

namespace Countersign

/-- The fields that a record of a descriptor can carry. -/
inductive FieldTag where
  | structureType
  | version
  | notValidAfter
  | challenge
  | signerKeyId
  | signerAlgo
  | derSignature
  | trustedName
  | chainId
  | address
  | trustedNameType
  | trustedNameSource
  | trustedNameNftId
  | trustedNameSourceContract
  deriving DecidableEq, Repr

namespace FieldTag

/-- Every field, in the order in which they are listed. -/
def all : List FieldTag :=
  [structureType, version, notValidAfter, challenge, signerKeyId, signerAlgo, derSignature,
    trustedName, chainId, address, trustedNameType, trustedNameSource, trustedNameNftId,
    trustedNameSourceContract]

/-- The tag of a field. -/
def code : FieldTag → UInt8
  | structureType => 0x01
  | version => 0x02
  | notValidAfter => 0x10
  | challenge => 0x12
  | signerKeyId => 0x13
  | signerAlgo => 0x14
  | derSignature => 0x15
  | trustedName => 0x20
  | chainId => 0x23
  | address => 0x22
  | trustedNameType => 0x70
  | trustedNameSource => 0x71
  | trustedNameNftId => 0x72
  | trustedNameSourceContract => 0x73

/-- The name under which a field is shown. -/
def name : FieldTag → String
  | structureType => "StructureType"
  | version => "Version"
  | notValidAfter => "NotValidAfter"
  | challenge => "Challenge"
  | signerKeyId => "SignerKeyId"
  | signerAlgo => "SignerAlgo"
  | derSignature => "DerSignature"
  | trustedName => "TrustedName"
  | chainId => "ChainId"
  | address => "Address"
  | trustedNameType => "TrustedNameType"
  | trustedNameSource => "TrustedNameSource"
  | trustedNameNftId => "TrustedNameNftId"
  | trustedNameSourceContract => "TrustedNameSourceContract"

/-- The field with this tag. -/
def ofCode? (tag : UInt8) : Option FieldTag :=
  all.find? (·.code == tag)

/-- The field with this name, spelled exactly. -/
def ofName? (text : String) : Option FieldTag :=
  all.find? (·.name == text)

end FieldTag

end Countersign

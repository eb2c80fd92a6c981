/-
# Building trusted name descriptors

A descriptor binds a name to an address on a chain. It is a sequence of records in a fixed order;
the last record is the signature over all records before it. Every field may be left out or
changed, so that the refusals of a device can be tried as well.
-/

import Countersign.Command
import Countersign.Tlv.Record
import Countersign.TrustedName.Kind

namespace Countersign

/-- The fields of a descriptor before it is signed. -/
structure TrustedNameDescriptor where
  structureType : Option UInt8
  version : Option UInt8
  nameType : Option UInt8
  nameSource : Option UInt8
  trustedName : Option Bytes
  chainId : Option UInt64
  address : Option Bytes
  /-- The contract that issued the name; most names have none. -/
  sourceContract : Option Bytes
  challenge : Option UInt32
  keyId : Option UInt8
  algo : Option UInt8
  deriving DecidableEq, Repr

namespace TrustedNameDescriptor

/-- The descriptor that a device in test mode accepts, if the name and the address are short
enough and the challenge is its own. -/
def standard (trustedName address : Bytes) (chainId : UInt64) (challenge : UInt32) :
    TrustedNameDescriptor where
  structureType := some trustedNameStructureType
  version := some trustedNameVersion
  nameType := some TrustedNameType.contextAddress.code
  nameSource := some TrustedNameSource.dynamicResolver.code
  trustedName := some trustedName
  chainId := some chainId
  address := some address
  sourceContract := none
  challenge := some challenge
  keyId := some SignerKeyId.test.code
  algo := some signerAlgoEcdsaSha256

/-- The same descriptor with this source contract. -/
def withSourceContract (descriptor : TrustedNameDescriptor) (contract : Bytes) :
    TrustedNameDescriptor :=
  { descriptor with sourceContract := some contract }

/-- The same descriptor, said to be signed by this key. -/
def withKeyId (descriptor : TrustedNameDescriptor) (key : SignerKeyId) : TrustedNameDescriptor :=
  { descriptor with keyId := some key.code }

/-- The same descriptor without the field; tags that no field has change nothing. -/
def without (descriptor : TrustedNameDescriptor) : FieldTag → TrustedNameDescriptor
  | .structureType => { descriptor with structureType := none }
  | .version => { descriptor with version := none }
  | .trustedNameType => { descriptor with nameType := none }
  | .trustedNameSource => { descriptor with nameSource := none }
  | .trustedName => { descriptor with trustedName := none }
  | .chainId => { descriptor with chainId := none }
  | .address => { descriptor with address := none }
  | .trustedNameSourceContract => { descriptor with sourceContract := none }
  | .challenge => { descriptor with challenge := none }
  | .signerKeyId => { descriptor with keyId := none }
  | .signerAlgo => { descriptor with algo := none }
  | .notValidAfter | .derSignature | .trustedNameNftId => descriptor

/-- A one-byte field as a value. -/
def ofByte (byte : UInt8) : TlvValue :=
  .int byte.toUInt64

/-- A challenge as a value; it always takes four bytes. -/
def ofChallenge (challenge : UInt32) : TlvValue :=
  .bytes (BigEndian.fixed 4 challenge.toNat)

/-- The fields in the order in which they are signed. -/
def fields (descriptor : TrustedNameDescriptor) : List (FieldTag × Option TlvValue) :=
  [(.structureType, descriptor.structureType.map ofByte),
    (.version, descriptor.version.map ofByte),
    (.trustedNameType, descriptor.nameType.map ofByte),
    (.trustedNameSource, descriptor.nameSource.map ofByte),
    (.trustedName, descriptor.trustedName.map .bytes),
    (.chainId, descriptor.chainId.map .int),
    (.address, descriptor.address.map .bytes),
    (.trustedNameSourceContract, descriptor.sourceContract.map .bytes),
    (.challenge, descriptor.challenge.map ofChallenge),
    (.signerKeyId, descriptor.keyId.map ofByte),
    (.signerAlgo, descriptor.algo.map ofByte)]

/-- The record of a field; an absent field has none. -/
def record : FieldTag × Option TlvValue → Bytes
  | (_, none) => []
  | (tag, some value) => Tlv.ofField tag value

/-- What the signature covers: every record before it. -/
def signedPayload (descriptor : TrustedNameDescriptor) : Bytes :=
  descriptor.fields.flatMap record

/-- The complete descriptor with this signature, if it fits one command. -/
def withSignature (descriptor : TrustedNameDescriptor) (signature : Bytes) :
    Except WireError Bytes :=
  let complete := descriptor.signedPayload ++ Tlv.ofField .derSignature (.bytes signature)
  if maxCommandData < complete.length then .error (.elementTooLong complete.length)
  else .ok complete

end TrustedNameDescriptor

end Countersign

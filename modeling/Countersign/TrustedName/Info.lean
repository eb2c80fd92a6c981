/-
# Reading trusted name descriptors

The records of a descriptor may come in any order and may repeat, in which case the last one
counts; but the signature comes last, only once, and nothing but known fields may stand before
it. What the signature covers is exactly the bytes of the records before it.
-/

import Countersign.Tlv.Reader
import Countersign.TrustedName.Kind

namespace Countersign

/-- A descriptor as a device reads it. -/
structure TrustedNameInfo where
  version : UInt8
  nameType : UInt8
  nameSource : UInt8
  trustedName : Bytes
  chainId : UInt64
  address : Bytes
  sourceContract : Option Bytes
  challenge : Option UInt32
  keyId : UInt8
  algo : UInt8
  /-- The bytes that the signature has to cover. -/
  signed : Bytes
  signature : Bytes
  deriving DecidableEq, Repr

namespace TrustedNameInfo

/-- The fields collected so far. -/
structure Draft where
  structureType : Option UInt8 := none
  version : Option UInt8 := none
  nameType : Option UInt8 := none
  nameSource : Option UInt8 := none
  trustedName : Option Bytes := none
  chainId : Option UInt64 := none
  address : Option Bytes := none
  sourceContract : Option Bytes := none
  challenge : Option UInt32 := none
  keyId : Option UInt8 := none
  algo : Option UInt8 := none
  signature : Option Bytes := none
  /-- How many bytes the records before the signature take. -/
  signedLength : Nat := 0
  deriving DecidableEq, Repr

/-- The challenge in a record: at most four bytes, read as a number. -/
def challengeOf (record : Tlv) : Except WireError UInt32 :=
  if 4 < record.value.length then .error .invalidEncoding
  else record.asInt.map (·.toUInt32)

namespace Draft

/-- Takes in the field of one record other than the signature. -/
def collect (draft : Draft) (record : Tlv) : Except WireError Draft :=
  match record.field? with
  | some .structureType =>
    record.asByte.map fun byte => { draft with structureType := some byte }
  | some .version => record.asByte.map fun byte => { draft with version := some byte }
  | some .trustedNameType => record.asByte.map fun byte => { draft with nameType := some byte }
  | some .trustedNameSource =>
    record.asByte.map fun byte => { draft with nameSource := some byte }
  | some .trustedName => .ok { draft with trustedName := some record.value }
  | some .chainId => record.asInt.map fun number => { draft with chainId := some number }
  | some .address => .ok { draft with address := some record.value }
  | some .trustedNameSourceContract =>
    .ok { draft with sourceContract := some record.value }
  | some .challenge =>
    (challengeOf record).map fun number => { draft with challenge := some number }
  | some .signerKeyId => record.asByte.map fun byte => { draft with keyId := some byte }
  | some .signerAlgo => record.asByte.map fun byte => { draft with algo := some byte }
  | some .derSignature | some .notValidAfter | some .trustedNameNftId | none =>
    .error .invalidEncoding

/-- Takes in one item of the walk over the records. Nothing may follow the signature, but a
malformed record is reported as such even there. -/
def step (draft : Draft) : Except WireError Tlv × Nat → Except WireError Draft
  | (.error cause, _) => .error cause
  | (.ok record, offset) =>
    if draft.signature.isSome then .error .invalidEncoding
    else if record.field? = some .derSignature then
      .ok { draft with signature := some record.value }
    else (draft.collect record).map fun draft => { draft with signedLength := offset }

/-- A field that has to be there. -/
def required {α : Type} (field : FieldTag) : Option α → Except WireError α
  | some value => .ok value
  | none => .error (.missingTag field.code)

/-- The descriptor, once everything is collected from the byte string. -/
def finish (draft : Draft) (bytes : Bytes) : Except WireError TrustedNameInfo := do
  let structureType ← required .structureType draft.structureType
  if structureType ≠ trustedNameStructureType then
    .error .invalidEncoding
  else
    let version ← required .version draft.version
    let nameType ← required .trustedNameType draft.nameType
    let nameSource ← required .trustedNameSource draft.nameSource
    let trustedName ← required .trustedName draft.trustedName
    let chainId ← required .chainId draft.chainId
    let address ← required .address draft.address
    let keyId ← required .signerKeyId draft.keyId
    let algo ← required .signerAlgo draft.algo
    let signature ← required .derSignature draft.signature
    .ok
      { version, nameType, nameSource, trustedName, chainId, address,
        sourceContract := draft.sourceContract
        challenge := draft.challenge
        keyId, algo
        signed := bytes.take draft.signedLength
        signature }

end Draft

/-- Reads a whole byte string as a descriptor. -/
def parse (bytes : Bytes) : Except WireError TrustedNameInfo := do
  let draft ← (Tlv.Reader.items bytes).1.foldlM Draft.step {}
  draft.finish bytes

end TrustedNameInfo

end Countersign

/-
# Partner credentials

A credential ties the name of a partner to its public key. The later form also names the curve
of the key. Both are a name behind a one-byte length and an uncompressed point of 65 bytes at
the end.
-/

import Countersign.Curve
import Countersign.Wire.Codec
import Countersign.Wire.Field

namespace Countersign

/-- The length of an uncompressed point. -/
def uncompressedPointLength : Nat := 65

/-- The first byte of an uncompressed point. -/
def uncompressedPointTag : UInt8 := 0x04

/-- Refuses bytes that do not have the outer form of an uncompressed point. Whether the point
lies on a curve is not asked here. -/
def checkPointForm (point : Bytes) : Except WireError Unit :=
  if point.length ≠ uncompressedPointLength then .error .invalidLength
  else if point.head? ≠ some uncompressedPointTag then .error .invalidEncoding
  else .ok ()

/-- The credential of the first generation of flows. -/
structure Credential where
  /-- The name of the partner. -/
  name : String
  /-- The public key of the partner, as an uncompressed point. -/
  publicKey : Bytes
  deriving DecidableEq, Repr

namespace Credential

instance : Encode Credential where
  encodedLength credential := do
    checkPointForm credential.publicKey
    let name ← prefixedLength (Bytes.ofText credential.name)
    .ok (name + uncompressedPointLength)
  write credential buffer := do
    checkPointForm credential.publicKey
    let buffer ← buffer.putPrefixed (Bytes.ofText credential.name)
    buffer.put credential.publicKey

/-- The credential at the front of a byte string, and the bytes after it. -/
def read (bytes : Bytes) : Except WireError (Credential × Bytes) := do
  let (name, rest) ← Field.prefixedText bytes
  let (publicKey, rest) ← Field.run uncompressedPointLength rest
  checkPointForm publicKey
  .ok (⟨name, publicKey⟩, rest)

instance : Decode Credential where
  read := read

end Credential

/-- The credential of the later generation of flows, which names the curve of the key. -/
structure CredentialNg where
  /-- The name of the partner. -/
  name : String
  /-- The curve of the public key. -/
  curve : Curve
  /-- The public key of the partner, as an uncompressed point. -/
  publicKey : Bytes
  deriving DecidableEq, Repr

namespace CredentialNg

instance : Encode CredentialNg where
  encodedLength credential := do
    checkPointForm credential.publicKey
    let name ← prefixedLength (Bytes.ofText credential.name)
    .ok (name + 1 + uncompressedPointLength)
  write credential buffer := do
    checkPointForm credential.publicKey
    let buffer ← buffer.putPrefixed (Bytes.ofText credential.name)
    let buffer ← buffer.put [credential.curve.code]
    buffer.put credential.publicKey

/-- The curve with this identifier, or the refusal of the identifier. -/
def curveOfCode (code : UInt8) : Except WireError Curve :=
  match Curve.ofCode? code with
  | some curve => .ok curve
  | none => .error (.invalidCurve code)

/-- The credential at the front of a byte string, and the bytes after it. -/
def read (bytes : Bytes) : Except WireError (CredentialNg × Bytes) := do
  let (name, rest) ← Field.prefixedText bytes
  let (code, rest) ← Field.byte rest
  let curve ← curveOfCode code
  let (publicKey, rest) ← Field.run uncompressedPointLength rest
  checkPointForm publicKey
  .ok (⟨name, curve, publicKey⟩, rest)

instance : Decode CredentialNg where
  read := read

end CredentialNg

end Countersign

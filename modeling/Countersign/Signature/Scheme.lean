/-
# Signature schemes

What the protocol needs from public-key signatures on the supported curves: keys from bytes, keys
as bytes, signing and verifying. Everything above this module is stated for any scheme, so that a
law of the protocol can name exactly what it assumes of signatures.
-/

import Countersign.Curve
import Countersign.Bytes
import Countersign.Error

namespace Countersign

/-- Why a signature does not count. -/
inductive SignatureFault where
  /-- The bytes are no signature. -/
  | malformed
  /-- The signature is not by this key over these bytes. -/
  | mismatch
  deriving DecidableEq, Repr

/-- The failure of an operation that met such a signature. -/
def SignatureFault.toError : SignatureFault → Error
  | .malformed => .invalidSignature
  | .mismatch => .signVerificationFail

/-- A signature scheme with keys on the supported curves. -/
structure SignatureScheme where
  SecretKey : Type
  PublicKey : Type
  /-- The secret key with this 32-byte scalar, if the scalar is in range. -/
  secretKey? : Curve → Bytes → Option SecretKey
  /-- A secret key drawn from fresh entropy. -/
  freshSecretKey : Curve → (entropy : Bytes) → SecretKey
  /-- The public key of a secret key. -/
  publicKey : SecretKey → PublicKey
  /-- The curve on which a public key lies. -/
  curve : PublicKey → Curve
  /-- The public key with this point on the given curve. -/
  publicKey? : Curve → Bytes → Option PublicKey
  /-- The point of a public key in full. -/
  uncompressed : PublicKey → Bytes
  /-- The point of a public key, compressed. -/
  compressed : PublicKey → Bytes
  /-- A signature over the payload. Different entropy gives a different signature. -/
  sign : SecretKey → (entropy payload : Bytes) → Bytes
  /-- Whether the bytes are a signature by this key over the payload. -/
  verify : PublicKey → (payload signature : Bytes) → Except SignatureFault Unit

end Countersign

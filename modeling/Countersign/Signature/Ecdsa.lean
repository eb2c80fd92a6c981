/-
# ECDSA over SHA-256

The signature scheme of the protocol. A secret key is a number below the order of the chosen
point, its public key the multiple of that point. A signature is a pair of numbers, the first of
which is the first coordinate of the nonce times the chosen point.
-/

import Countersign.Curve.Sec1
import Countersign.Signature.Nonce
import Countersign.Signature.Scheme
import Countersign.Signature.Sequence

namespace Countersign.Ecdsa

/-- A secret key: a number on a curve. -/
structure SecretKey where
  curve : Curve
  scalar : Nat
  deriving DecidableEq, Repr

/-- A public key: the coordinates of a point on a curve. -/
structure PublicKey where
  curve : Curve
  x : Nat
  y : Nat
  deriving DecidableEq, Repr

namespace SecretKey

/-- The secret key with this scalar, which has to be positive and below the order. -/
def ofScalar? (curve : Curve) (bytes : Bytes) : Option SecretKey :=
  let scalar := BigEndian.value bytes
  if bytes.length = Sec1.coordinateLength ∧ 0 < scalar ∧ scalar < curve.parameters.order then
    some ⟨curve, scalar⟩
  else none

/-- A secret key that depends on all of the entropy. -/
def fresh (curve : Curve) (entropy : Bytes) : SecretKey :=
  let order := curve.parameters.order
  let digits := Sha256.hash (0x00 :: entropy) ++ Sha256.hash (0x01 :: entropy)
  ⟨curve, BigEndian.value digits % (order - 1) + 1⟩

/-- The public key of a secret key. -/
def publicKey (key : SecretKey) : PublicKey :=
  let curve := key.curve.parameters
  match curve.toPoint (curve.multiple key.scalar curve.base) with
  | .affine x y => ⟨key.curve, x, y⟩
  | .infinity => ⟨key.curve, 0, 0⟩

end SecretKey

/-- The public key with this point. -/
def PublicKey.ofSec1? (curve : Curve) (bytes : Bytes) : Option PublicKey :=
  (Sec1.read? curve bytes).map fun (x, y) => ⟨curve, x, y⟩

/-- The hash of a payload as a number below the order. -/
def digest (order : Nat) (payload : Bytes) : Nat :=
  BigEndian.value (Sha256.hash payload) % order

/-- The lower of a number and its negative, where the curve asks for it. -/
def normalizeS (curve : Curve) (s : Nat) : Nat :=
  let order := curve.parameters.order
  if curve.requiresLowS ∧ order / 2 < s then order - s else s

/-- The two numbers of a signature over a digest, where this point is the nonce times the chosen
point. -/
def numbersAt (key : SecretKey) (digest nonce : Nat) : Weierstrass.Point → Nat × Nat
  | .infinity => (0, 0)
  | .affine x _ =>
    let order := key.curve.parameters.order
    let r := x % order
    let s := Modular.inverse order nonce * (digest + r * key.scalar) % order
    (r, normalizeS key.curve s)

/-- The two numbers of a signature over a payload. -/
def signNumbers (key : SecretKey) (entropy payload : Bytes) : Nat × Nat :=
  let curve := key.curve.parameters
  let digest := digest curve.order payload
  let nonce := Nonce.generate curve.order key.scalar digest entropy
  numbersAt key digest nonce (curve.toPoint (curve.multiple nonce curve.base))

/-- A signature over a payload. -/
def sign (key : SecretKey) (entropy payload : Bytes) : Bytes :=
  let numbers := signNumbers key entropy payload
  SignatureSequence.encode numbers.1 numbers.2

/-- Whether two numbers in range are a signature by this key over the payload. -/
def verifyNumbers (key : PublicKey) (payload : Bytes) (r s : Nat) : Bool :=
  let curve := key.curve.parameters
  let inverse := Modular.inverse curve.order s
  let baseScalar := digest curve.order payload * inverse % curve.order
  let keyScalar := r * inverse % curve.order
  let basePart := curve.toPoint (curve.multiple baseScalar curve.base)
  let sum := curve.add (curve.multiple keyScalar (.affine key.x key.y)) basePart
  match curve.toPoint sum with
  | .infinity => false
  | .affine x _ => x % curve.order == r

/-- Whether the bytes are a signature by this key over the payload. Numbers out of range are no
signature; a higher `s` than the curve allows is a signature that does not count. -/
def verify (key : PublicKey) (payload signature : Bytes) : Except SignatureFault Unit :=
  match SignatureSequence.decode? signature with
  | none => .error .malformed
  | some (r, s) =>
    let order := key.curve.parameters.order
    if r = 0 ∨ s = 0 ∨ order ≤ r ∨ order ≤ s then .error .malformed
    else if normalizeS key.curve s ≠ s then .error .mismatch
    else if verifyNumbers key payload r s then .ok ()
    else .error .mismatch

/-- ECDSA over SHA-256 as a signature scheme. -/
def scheme : SignatureScheme where
  SecretKey := SecretKey
  PublicKey := PublicKey
  secretKey? := SecretKey.ofScalar?
  freshSecretKey := SecretKey.fresh
  publicKey := SecretKey.publicKey
  curve := PublicKey.curve
  publicKey? := PublicKey.ofSec1?
  uncompressed key := Sec1.uncompressed key.x key.y
  compressed key := Sec1.compressed key.x key.y
  sign := sign
  verify := verify

end Countersign.Ecdsa

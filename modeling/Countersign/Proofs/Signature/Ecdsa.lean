/-
# Keys and signatures of ECDSA as bytes

Whatever is signed, with whichever key and entropy, a signature is a sequence of two numbers below
the order of the curve, so it is short. The scalars of secret keys are the numbers from one up to
below the order, in 32 bytes each, and every public key is written in the outer form of a point.
-/

import Countersign.Proofs.Command.SignatureBoundary
import Countersign.Proofs.Credential.Form
import Countersign.Signature.Ecdsa

namespace Countersign

/-- The sequence of two numbers of 32 bytes. -/
theorem SignatureSequence.length_encode_le {r s : Nat} (hr : r < 256 ^ 32) (hs : s < 256 ^ 32) :
    (encode r s).length ≤ 72 := by
  have hr := length_integer_le hr
  have hs := length_integer_le hs
  rw [encode, List.length_cons, List.length_cons, List.length_append]
  omega

namespace Ecdsa

theorem order_lt (curve : Curve) : curve.parameters.order < 256 ^ 32 := by
  cases curve <;> decide

theorem normalizeS_le (curve : Curve) {s : Nat} (hs : s < curve.parameters.order) :
    normalizeS curve s ≤ curve.parameters.order := by
  rw [normalizeS]
  split
  · exact Nat.sub_le _ _
  · exact Nat.le_of_lt hs

/-- Both numbers of a signature have at most 32 bytes. -/
theorem numbersAt_lt (key : SecretKey) (digest nonce : Nat) (point : Weierstrass.Point) :
    (numbersAt key digest nonce point).1 < 256 ^ 32 ∧
      (numbersAt key digest nonce point).2 < 256 ^ 32 := by
  have horder := order_lt key.curve
  have hpos : 0 < key.curve.parameters.order := by cases key.curve <;> decide
  have hzero : 0 < 256 ^ 32 := by decide
  cases point with
  | infinity => exact ⟨hzero, hzero⟩
  | affine x y =>
    constructor
    · exact Nat.lt_trans (Nat.mod_lt x hpos) horder
    · exact Nat.lt_of_le_of_lt (normalizeS_le key.curve (Nat.mod_lt _ hpos)) horder

/-- Every signature is short. -/
theorem length_sign_le (key : SecretKey) (entropy payload : Bytes) :
    (sign key entropy payload).length ≤ 72 := by
  have hnumbers := numbersAt_lt key
  rw [sign, signNumbers]
  exact SignatureSequence.length_encode_le (hnumbers _ _ _).1 (hnumbers _ _ _).2

/-- The secret keys on a curve are the scalars in range. -/
theorem ofScalar?_eq_some_iff {curve : Curve} {bytes : Bytes} {key : SecretKey} :
    SecretKey.ofScalar? curve bytes = some key ↔
      (bytes.length = Sec1.coordinateLength ∧
        0 < BigEndian.value bytes ∧ BigEndian.value bytes < curve.parameters.order) ∧
      key = ⟨curve, BigEndian.value bytes⟩ := by
  rw [SecretKey.ofScalar?, Option.ite_none_right_eq_some, Option.some.injEq, @eq_comm _ key]

theorem curve_publicKey (key : SecretKey) : key.publicKey.curve = key.curve := by
  rw [SecretKey.publicKey]
  split <;> rfl

/-- Whatever the coordinates, a public key is written in the outer form of a point. -/
theorem checkPointForm_uncompressed (x y : Nat) :
    checkPointForm (Sec1.uncompressed x y) = .ok () := by
  refine checkPointForm_eq_ok_iff_head.2 ⟨?_, rfl⟩
  rw [Sec1.uncompressed, List.cons_append, List.length_cons, List.length_append,
    BigEndian.length_fixed, BigEndian.length_fixed, Sec1.coordinateLength, uncompressedPointLength]

end Ecdsa

end Countersign

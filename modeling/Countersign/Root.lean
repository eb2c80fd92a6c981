/-
# The root of trust

A device in test mode trusts one fixed key. Whatever the matching secret signs is accepted, and
what any other root signs is refused.
-/

import Countersign.Authority

namespace Countersign

/-- The secret of the root that devices in test mode trust, in hexadecimal. It is no secret at
all: it exists for tests only. -/
def testRootSecret : String :=
  "b1ed47ef58f782e2bc4d5abe70ef66d9009c2957967017054470e0f3e10f5833"

/-- The public key that devices in test mode trust. -/
def testRootPoint : Bytes :=
  [0x04, 0x20, 0xda, 0x62, 0x00, 0x3c, 0x0c, 0xe0, 0x97, 0xe3, 0x36, 0x44, 0xa1, 0x0f, 0xe4, 0xc3,
   0x04, 0x54, 0x06, 0x9a, 0x44, 0x54, 0xf0, 0xfa, 0x9d, 0x4e, 0x84, 0xf4, 0x50, 0x91, 0x42, 0x9b,
   0x52, 0x20, 0xaf, 0x9e, 0x35, 0xc0, 0xb2, 0xd9, 0x28, 0x93, 0x80, 0x13, 0x73, 0x07, 0xde, 0x4d,
   0xd1, 0xd4, 0x18, 0x42, 0x8c, 0xf2, 0x1a, 0x93, 0xb3, 0x35, 0x61, 0xbb, 0x09, 0xd8, 0x8f, 0xe5,
   0x79]

/-- The name of a root. -/
def rootName : String := "ledger_test_signer"

/-- The curve of a root. -/
def rootCurve : Curve := .secp256k1

variable (S : SignatureScheme)

/-- The root with this secret in hexadecimal. -/
def rootOfHex (secret : String) : Except Error (Authority S) :=
  match Hex.decode secret with
  | .error cause => .error (.hex cause)
  | .ok bytes => Authority.ofSecret S rootCurve rootName bytes

/-- The root that devices in test mode trust. -/
def testRoot : Except Error (Authority S) :=
  rootOfHex S testRootSecret

/-- A root that no device trusts. -/
def freshRoot (entropy : Bytes) : Except Error (Authority S) :=
  Authority.fresh S rootCurve rootName entropy

/-- The trust anchor of devices in test mode. -/
def testRootKey : Except Error S.PublicKey :=
  readPublicKey S rootCurve testRootPoint

/-- A signature by the given authority, or by the test root where none is given. -/
def signAs {S : SignatureScheme} (signer : Option (Authority S)) (entropy payload : Bytes) :
    Except Error Bytes :=
  match signer with
  | some authority => .ok (authority.sign entropy payload)
  | none => (testRoot S).map fun root => root.sign entropy payload

end Countersign

/-
# Signing authorities

An authority is a name with a key pair, and the credentials that follow from both. Partners and
roots are authorities alike: the root signs what the device has to trust, a partner is what the
root vouches for.
-/

import Countersign.Credential
import Countersign.Flow
import Countersign.Signature.Scheme

namespace Countersign

/-- The length of a secret scalar. -/
def secretLength : Nat := 32

/-- A named key pair with the credentials that follow from it. -/
structure Authority (S : SignatureScheme) where
  name : String
  secretKey : S.SecretKey
  publicKey : S.PublicKey
  /-- The credentials of the first generation of flows. -/
  credentials : Bytes
  /-- The credentials of the later generation of flows. -/
  credentialsNg : Bytes

namespace Authority

variable {S : SignatureScheme}

/-- The authority with this key. Its name has to fit a credential. -/
def ofSecretKey (name : String) (secretKey : S.SecretKey) : Except Error (Authority S) :=
  let publicKey := S.publicKey secretKey
  let point := S.uncompressed publicKey
  match encode (⟨name, point⟩ : Credential) with
  | .error cause => .error (.wire cause)
  | .ok credentials =>
    match encode (⟨name, S.curve publicKey, point⟩ : CredentialNg) with
    | .error cause => .error (.wire cause)
    | .ok credentialsNg => .ok ⟨name, secretKey, publicKey, credentials, credentialsNg⟩

/-- A secret of at most 32 bytes with zeros in front, so that only its value counts. -/
def paddedSecret (secret : Bytes) : Bytes :=
  List.replicate (secretLength - secret.length) 0 ++ secret

/-- The authority with this secret. A secret that is no key is refused before the name is looked
at. -/
def ofSecret (S : SignatureScheme) (curve : Curve) (name : String) (secret : Bytes) :
    Except Error (Authority S) :=
  if secret.isEmpty ∨ secretLength < secret.length then .error .invalidKey
  else
    match S.secretKey? curve (paddedSecret secret) with
    | none => .error .invalidKey
    | some secretKey => ofSecretKey name secretKey

/-- An authority with a fresh key. -/
def fresh (S : SignatureScheme) (curve : Curve) (name : String) (entropy : Bytes) :
    Except Error (Authority S) :=
  ofSecretKey name (S.freshSecretKey curve entropy)

variable (authority : Authority S)

/-- The curve of the key. -/
def curve : Curve :=
  S.curve authority.publicKey

/-- The public key in full. -/
def point : Bytes :=
  S.uncompressed authority.publicKey

/-- The credentials in the form that a flow expects. -/
def credentialsFor (flow : Flow) : Bytes :=
  if flow.isNg then authority.credentialsNg else authority.credentials

/-- A signature over the payload. -/
def sign (entropy payload : Bytes) : Bytes :=
  S.sign authority.secretKey entropy payload

/-- The authority as a value; the secret is not shown. -/
def label : String :=
  "SigningAuthority \x7b name: " ++ Text.quotedText authority.name ++ ", curve: " ++
    authority.curve.label ++ ", public_key: " ++ Text.quotedText (Hex.encode authority.point) ++
    " \x7d"

end Authority

/-- The public key with this point, or the refusal of it. -/
def readPublicKey (S : SignatureScheme) (curve : Curve) (bytes : Bytes) :
    Except Error S.PublicKey :=
  match S.publicKey? curve bytes with
  | some key => .ok key
  | none => .error .invalidKey

/-- Checks that the bytes are a signature by this key over the payload. -/
def checkSignature (S : SignatureScheme) (key : S.PublicKey) (payload signature : Bytes) :
    Except Error Unit :=
  (S.verify key payload signature).mapError SignatureFault.toError

end Countersign

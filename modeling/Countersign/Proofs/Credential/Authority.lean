/-
# What determines an authority

A secret is padded to the length of a scalar, so only its value counts: secrets of different lengths
with one value make the same key, and the two limits on the value are all that a curve asks for. The
key is looked at before the name. The credentials of either generation are written when an authority
is made and kept beside the key; reading them shows the name and the key, the same in both.

What is assumed of the curves is assumed of the keys that a scheme makes from bytes; that reading a
point undoes writing it is assumed of the one key that is read.
-/

import Countersign.Authority
import Countersign.Proofs.Bytes.BigEndian
import Countersign.Proofs.Credential.Form
import Countersign.Proofs.Signature.Ecdsa

namespace Countersign

namespace BigEndian

/-- Zeros in front do not count. -/
theorem value_replicate_append (count : Nat) (bytes : Bytes) :
    value (List.replicate count 0 ++ bytes) = value bytes := by
  induction count with
  | zero => rfl
  | succ count ih =>
    rw [List.replicate_succ, List.cons_append, value_cons, ih,
      show (0 : UInt8).toNat = 0 from rfl, Nat.zero_mul, Nat.zero_add]

end BigEndian

/-- The bytes are a secret on this curve: there are 1 to 32 of them, and their value is positive and
below the order. -/
def IsScalar (curve : Curve) (secret : Bytes) : Prop :=
  (1 ≤ secret.length ∧ secret.length ≤ secretLength) ∧
    0 < BigEndian.value secret ∧ BigEndian.value secret < curve.parameters.order

instance (curve : Curve) (secret : Bytes) : Decidable (IsScalar curve secret) :=
  inferInstanceAs (Decidable (_ ∧ _))

namespace SignatureScheme

/-- What is assumed of the keys of a scheme: the secret keys on a curve are the positive scalars
below the order in 32 bytes, the public key is on the same curve, and it is written in the outer
form of a point. -/
structure HasScalarKeys (S : SignatureScheme) : Prop where
  isSome_secretKey?_iff : ∀ (curve : Curve) (bytes : Bytes),
    (S.secretKey? curve bytes).isSome ↔ bytes.length = secretLength ∧
      0 < BigEndian.value bytes ∧ BigEndian.value bytes < curve.parameters.order
  curve_publicKey : ∀ (curve : Curve) (bytes : Bytes) (key : S.SecretKey),
    S.secretKey? curve bytes = some key → S.curve (S.publicKey key) = curve
  checkPointForm_uncompressed : ∀ key : S.SecretKey,
    checkPointForm (S.uncompressed (S.publicKey key)) = .ok ()

/-- Reading the point of this key on its curve gives the key back. -/
def ReadsBack (S : SignatureScheme) (key : S.PublicKey) : Prop :=
  S.publicKey? (S.curve key) (S.uncompressed key) = some key

end SignatureScheme

namespace Credential

/-- A name that is too long is what keeps a point of the right form from being written. -/
theorem encode_of_long {credential : Credential}
    (hpoint : checkPointForm credential.publicKey = .ok ())
    (hlong : maxPrefixed < (Bytes.ofText credential.name).length) :
    encode credential = .error (.elementTooLong (Bytes.ofText credential.name).length) := by
  refine encode_of_encodedLength_eq_error ?_
  have hname : prefixedLength (Bytes.ofText credential.name) =
      .error (.elementTooLong (Bytes.ofText credential.name).length) := if_pos hlong
  simp only [Encode.encodedLength, hpoint, hname, bind, Except.bind]

/-- The form of a credential is read as a whole. -/
theorem decode_form {credential : Credential} (hwritable : credential.Writable) :
    decode credential.form = .ok (credential, credential.form.length) :=
  decode_eq_ok_iff_read.2
    ⟨[], read_eq_ok_iff.2 ⟨hwritable, (List.append_nil _).symm⟩, Nat.sub_zero _⟩

end Credential

namespace CredentialNg

/-- The form of a credential is read as a whole. -/
theorem decode_form {credential : CredentialNg} (hwritable : credential.Writable) :
    decode credential.form = .ok (credential, credential.form.length) :=
  decode_eq_ok_iff_read.2
    ⟨[], read_eq_ok_iff.2 ⟨hwritable, (List.append_nil _).symm⟩, Nat.sub_zero _⟩

end CredentialNg

namespace Authority

variable {S : SignatureScheme} {authority : Authority S} {name : String} {curve : Curve}
  {secret : Bytes} {secretKey : S.SecretKey}

/-- The authority with this name and key whose credentials are the written forms for them. -/
def withForms (name : String) (secretKey : S.SecretKey) : Authority S :=
  let publicKey := S.publicKey secretKey
  let point := S.uncompressed publicKey
  { name, secretKey, publicKey
    credentials := Credential.form ⟨name, point⟩
    credentialsNg := CredentialNg.form ⟨name, S.curve publicKey, point⟩ }

/-- An authority is made from a name and a key exactly if they can be written as a credential. -/
theorem ofSecretKey_eq_ok_iff :
    ofSecretKey name secretKey = .ok authority ↔
      Credential.Writable ⟨name, S.uncompressed (S.publicKey secretKey)⟩ ∧
        authority = withForms name secretKey := by
  refine ⟨fun hauthority => ?_, fun hforms => ?_⟩
  · unfold ofSecretKey at hauthority
    dsimp only at hauthority
    split at hauthority
    · cases hauthority
    · next credentials hcredentials =>
      split at hauthority
      · cases hauthority
      · next credentialsNg hcredentialsNg =>
        cases hauthority
        obtain ⟨hwritable, rfl⟩ := Credential.encode_eq_ok_iff.1 hcredentials
        obtain ⟨-, rfl⟩ := CredentialNg.encode_eq_ok_iff.1 hcredentialsNg
        exact ⟨hwritable, rfl⟩
  · obtain ⟨hwritable, rfl⟩ := hforms
    have hcredentials := Credential.encode_eq_form hwritable
    have hcredentialsNg := @CredentialNg.encode_eq_form
      ⟨name, S.curve (S.publicKey secretKey), S.uncompressed (S.publicKey secretKey)⟩
      ⟨hwritable.name, hwritable.publicKey⟩
    simp only [ofSecretKey, hcredentials, hcredentialsNg, withForms]

/-- A key with a point of the right form makes no authority with a name that is too long. -/
theorem ofSecretKey_of_long
    (hpoint : checkPointForm (S.uncompressed (S.publicKey secretKey)) = .ok ())
    (hlong : maxPrefixed < (Bytes.ofText name).length) :
    ofSecretKey name secretKey =
      .error (.wire (.elementTooLong (Bytes.ofText name).length)) := by
  have hencode := @Credential.encode_of_long
    ⟨name, S.uncompressed (S.publicKey secretKey)⟩ hpoint hlong
  simp only [ofSecretKey, hencode]

theorem length_paddedSecret (hlength : secret.length ≤ secretLength) :
    (paddedSecret secret).length = secretLength := by
  rw [paddedSecret, List.length_append, List.length_replicate]
  exact Nat.sub_add_cancel hlength

theorem value_paddedSecret (secret : Bytes) :
    BigEndian.value (paddedSecret secret) = BigEndian.value secret :=
  BigEndian.value_replicate_append _ _

/-- The padded form of a secret depends on its value alone. -/
theorem paddedSecret_eq_fixed (hlength : secret.length ≤ secretLength) :
    paddedSecret secret = BigEndian.fixed secretLength (BigEndian.value secret) := by
  rw [← value_paddedSecret, ← length_paddedSecret hlength, BigEndian.fixed_value]

theorem not_isEmpty_or_long_iff {secret : Bytes} :
    ¬(secret.isEmpty ∨ secretLength < secret.length) ↔
      1 ≤ secret.length ∧ secret.length ≤ secretLength := by
  rw [not_or, List.isEmpty_iff_length_eq_zero, Nat.not_lt, Nat.one_le_iff_ne_zero]

/-- A secret that can be padded to a key makes what this key makes. -/
theorem ofSecret_of_key (hlength : 1 ≤ secret.length ∧ secret.length ≤ secretLength)
    (hkey : S.secretKey? curve (paddedSecret secret) = some secretKey) :
    ofSecret S curve name secret = ofSecretKey name secretKey := by
  rw [ofSecret, if_neg (not_isEmpty_or_long_iff.2 hlength), hkey]

/-- The secrets on a curve are those that can be padded to a key. -/
theorem isScalar_iff (hkeys : S.HasScalarKeys) :
    IsScalar curve secret ↔ (1 ≤ secret.length ∧ secret.length ≤ secretLength) ∧
      ∃ key, S.secretKey? curve (paddedSecret secret) = some key := by
  refine and_congr_right fun hlength => ?_
  rw [← Option.isSome_iff_exists, hkeys.isSome_secretKey?_iff, value_paddedSecret]
  exact (and_iff_right (length_paddedSecret hlength.2)).symm

/-- What is no secret on the curve is refused, whatever the name. -/
theorem ofSecret_of_not_isScalar (hkeys : S.HasScalarKeys) (hscalar : ¬IsScalar curve secret) :
    ofSecret S curve name secret = .error .invalidKey := by
  rw [isScalar_iff hkeys, not_and] at hscalar
  rw [ofSecret]
  split
  · rfl
  · next hlength =>
    split
    · rfl
    · next key hkey =>
      exact absurd ⟨key, hkey⟩ (hscalar (not_isEmpty_or_long_iff.1 hlength))

/-- An authority is made from a secret exactly if the secret is one on the curve and the name fits
behind one byte, and then it is the authority with the key that the secret is padded to. -/
theorem ofSecret_eq_ok_iff (hkeys : S.HasScalarKeys) :
    ofSecret S curve name secret = .ok authority ↔
      (IsScalar curve secret ∧ (Bytes.ofText name).length ≤ maxPrefixed) ∧
        ∃ key, S.secretKey? curve (paddedSecret secret) = some key ∧
          authority = withForms name key := by
  constructor
  · intro hauthority
    by_cases hscalar : IsScalar curve secret
    · obtain ⟨hlength, key, hkey⟩ := (isScalar_iff hkeys).1 hscalar
      rw [ofSecret_of_key hlength hkey] at hauthority
      obtain ⟨hwritable, rfl⟩ := ofSecretKey_eq_ok_iff.1 hauthority
      exact ⟨⟨hscalar, hwritable.name⟩, key, hkey, rfl⟩
    · rw [ofSecret_of_not_isScalar hkeys hscalar] at hauthority
      cases hauthority
  · rintro ⟨⟨hscalar, hname⟩, key, hkey, rfl⟩
    rw [ofSecret_of_key hscalar.1 hkey]
    exact ofSecretKey_eq_ok_iff.2 ⟨⟨hname, hkeys.checkPointForm_uncompressed key⟩, rfl⟩

/-- A secret on the curve is refused for a name that is too long, and for its length. -/
theorem ofSecret_of_long (hkeys : S.HasScalarKeys) (hscalar : IsScalar curve secret)
    (hlong : maxPrefixed < (Bytes.ofText name).length) :
    ofSecret S curve name secret =
      .error (.wire (.elementTooLong (Bytes.ofText name).length)) := by
  obtain ⟨hlength, key, hkey⟩ := (isScalar_iff hkeys).1 hscalar
  rw [ofSecret_of_key hlength hkey]
  exact ofSecretKey_of_long (hkeys.checkPointForm_uncompressed key) hlong

/-- Authorities made from secrets of one value have the same key. -/
theorem exists_key_of_value_eq (hkeys : S.HasScalarKeys) {other : Authority S}
    {otherName : String} {otherSecret : Bytes}
    (hauthority : ofSecret S curve name secret = .ok authority)
    (hother : ofSecret S curve otherName otherSecret = .ok other)
    (hvalue : BigEndian.value secret = BigEndian.value otherSecret) :
    ∃ key, authority = withForms name key ∧ other = withForms otherName key := by
  obtain ⟨⟨hscalar, -⟩, key, hkey, hforms⟩ := (ofSecret_eq_ok_iff hkeys).1 hauthority
  obtain ⟨⟨hscalar', -⟩, key', hkey', hforms'⟩ := (ofSecret_eq_ok_iff hkeys).1 hother
  have hpadded : paddedSecret secret = paddedSecret otherSecret := by
    rw [paddedSecret_eq_fixed hscalar.1.2, paddedSecret_eq_fixed hscalar'.1.2, hvalue]
  rw [hpadded, hkey', Option.some.injEq] at hkey
  exact ⟨key, hforms, hkey ▸ hforms'⟩

/-- How a program comes by an authority: from a secret, or with a fresh key. -/
inductive Made : Authority S → Prop where
  | ofSecret {authority : Authority S} (curve : Curve) (name : String) (secret : Bytes)
      (hsecret : Authority.ofSecret S curve name secret = .ok authority) : Made authority
  | fresh {authority : Authority S} (curve : Curve) (name : String) (entropy : Bytes)
      (hfresh : Authority.fresh S curve name entropy = .ok authority) : Made authority

/-- An authority has the credentials for its own name and key, and they can be written. -/
theorem Made.eq_withForms (hkeys : S.HasScalarKeys) (hmade : Made authority) :
    Credential.Writable ⟨authority.name, authority.point⟩ ∧
      authority = withForms authority.name authority.secretKey := by
  cases hmade with
  | ofSecret curve name secret hsecret =>
    obtain ⟨⟨-, hname⟩, key, -, rfl⟩ := (ofSecret_eq_ok_iff hkeys).1 hsecret
    exact ⟨⟨hname, hkeys.checkPointForm_uncompressed key⟩, rfl⟩
  | fresh curve name entropy hfresh =>
    obtain ⟨hwritable, rfl⟩ := ofSecretKey_eq_ok_iff.1 hfresh
    exact ⟨hwritable, rfl⟩

/-- Under what is assumed of the keys, which secrets and names make an authority, and what the
others are refused for: a secret that is none on the curve whatever the name, and only then a name
that is too long. Secrets of one value make the same public key and, for one name, the same
credentials. The credentials of every authority are read as a whole, both with its name and with one
point, in the later generation with its curve, and the point on this curve is read as its public key
if reading undoes writing for this key. -/
theorem determined_by_value_of_secret (S : SignatureScheme) (hkeys : S.HasScalarKeys) :
    (∀ (curve : Curve) (name : String) (secret : Bytes),
      ((∃ authority, ofSecret S curve name secret = .ok authority) ↔
        IsScalar curve secret ∧ (Bytes.ofText name).length ≤ maxPrefixed) ∧
      (∀ authority, ofSecret S curve name secret = .ok authority →
        authority.name = name ∧ authority.curve = curve) ∧
      (¬IsScalar curve secret → ofSecret S curve name secret = .error .invalidKey) ∧
      (IsScalar curve secret → maxPrefixed < (Bytes.ofText name).length →
        ofSecret S curve name secret =
          .error (.wire (.elementTooLong (Bytes.ofText name).length)))) ∧
    (∀ (curve : Curve) (name otherName : String) (secret otherSecret : Bytes)
      (authority other : Authority S), ofSecret S curve name secret = .ok authority →
      ofSecret S curve otherName otherSecret = .ok other →
      BigEndian.value secret = BigEndian.value otherSecret →
        authority.publicKey = other.publicKey ∧
        (name = otherName → authority.credentials = other.credentials ∧
          authority.credentialsNg = other.credentialsNg)) ∧
    ∀ authority : Authority S, Made authority → ∃ (plain : Credential) (later : CredentialNg),
      decode authority.credentials = .ok (plain, authority.credentials.length) ∧
      decode authority.credentialsNg = .ok (later, authority.credentialsNg.length) ∧
      plain.name = authority.name ∧ later.name = authority.name ∧
      plain.publicKey = later.publicKey ∧ later.curve = authority.curve ∧
      (S.ReadsBack authority.publicKey →
        readPublicKey S later.curve plain.publicKey = .ok authority.publicKey) := by
  refine ⟨fun curve name secret => ⟨⟨?_, ?_⟩, ?_, ofSecret_of_not_isScalar hkeys,
    ofSecret_of_long hkeys⟩, ?_, ?_⟩
  · rintro ⟨authority, hauthority⟩
    exact ((ofSecret_eq_ok_iff hkeys).1 hauthority).1
  · intro haccepted
    obtain ⟨-, key, hkey⟩ := (isScalar_iff hkeys).1 haccepted.1
    exact ⟨_, (ofSecret_eq_ok_iff hkeys).2 ⟨haccepted, key, hkey, rfl⟩⟩
  · intro authority hauthority
    obtain ⟨-, key, hkey, rfl⟩ := (ofSecret_eq_ok_iff hkeys).1 hauthority
    exact ⟨rfl, hkeys.curve_publicKey curve _ key hkey⟩
  · intro curve name otherName secret otherSecret authority other hauthority hother hvalue
    obtain ⟨key, rfl, rfl⟩ := exists_key_of_value_eq hkeys hauthority hother hvalue
    refine ⟨rfl, ?_⟩
    rintro rfl
    exact ⟨rfl, rfl⟩
  · intro authority hmade
    obtain ⟨hwritable, hforms⟩ := hmade.eq_withForms hkeys
    have hplain : authority.credentials = Credential.form ⟨authority.name, authority.point⟩ := by
      rw [hforms]
      rfl
    have hlater : authority.credentialsNg =
        CredentialNg.form ⟨authority.name, authority.curve, authority.point⟩ := by
      rw [hforms]
      rfl
    refine ⟨⟨authority.name, authority.point⟩, ⟨authority.name, authority.curve, authority.point⟩,
      ?_, ?_, rfl, rfl, rfl, rfl, fun hreads => ?_⟩
    · rw [hplain]
      exact Credential.decode_form hwritable
    · rw [hlater]
      exact CredentialNg.decode_form ⟨hwritable.name, hwritable.publicKey⟩
    · have hpublic : S.publicKey? authority.curve authority.point = some authority.publicKey :=
        hreads
      rw [readPublicKey, hpublic]

/-- The keys of ECDSA are as assumed. -/
theorem hasScalarKeys_ecdsa : Ecdsa.scheme.HasScalarKeys where
  isSome_secretKey?_iff curve bytes := by
    rw [Option.isSome_iff_exists]
    refine ⟨fun ⟨key, hkey⟩ => (Ecdsa.ofScalar?_eq_some_iff.1 hkey).1, fun hscalar => ?_⟩
    exact ⟨_, Ecdsa.ofScalar?_eq_some_iff.2 ⟨hscalar, rfl⟩⟩
  curve_publicKey curve bytes key hkey := by
    obtain ⟨-, rfl⟩ := Ecdsa.ofScalar?_eq_some_iff.1 hkey
    exact Ecdsa.curve_publicKey _
  checkPointForm_uncompressed _ := Ecdsa.checkPointForm_uncompressed _ _

instance : DecidableEq Ecdsa.scheme.PublicKey :=
  inferInstanceAs (DecidableEq Ecdsa.PublicKey)

instance (key : Ecdsa.scheme.PublicKey) : Decidable (Ecdsa.scheme.ReadsBack key) :=
  inferInstanceAs (Decidable (_ = _))

/-- The key of an authority is the value of its secret. -/
theorem eq_withForms_ecdsa {authority : Authority Ecdsa.scheme}
    (hauthority : ofSecret Ecdsa.scheme curve name secret = .ok authority) :
    authority = withForms name (⟨curve, BigEndian.value secret⟩ : Ecdsa.SecretKey) := by
  obtain ⟨-, key, hscalar, rfl⟩ := (ofSecret_eq_ok_iff hasScalarKeys_ecdsa).1 hauthority
  obtain ⟨-, rfl⟩ := Ecdsa.ofScalar?_eq_some_iff.1 hscalar
  rw [value_paddedSecret]

theorem readsBack_smallest : Ecdsa.scheme.ReadsBack (withForms "p" (⟨.secp256r1,
    BigEndian.value [0x01]⟩ : Ecdsa.SecretKey) : Authority Ecdsa.scheme).publicKey := by
  decide +kernel

/-- The smallest secret on the second curve, with and without a zero in front: both make one
authority, whose credentials show its key. -/
theorem determined_by_value_of_smallest_secret :
    ∃ authority other : Authority Ecdsa.scheme,
      ofSecret Ecdsa.scheme .secp256r1 "p" [0x01] = .ok authority ∧
      ofSecret Ecdsa.scheme .secp256r1 "p" [0x00, 0x01] = .ok other ∧
      authority.publicKey = other.publicKey ∧ authority.credentials = other.credentials ∧
      ∃ (plain : Credential) (later : CredentialNg),
        decode authority.credentials = .ok (plain, authority.credentials.length) ∧
        decode authority.credentialsNg = .ok (later, authority.credentialsNg.length) ∧
        readPublicKey Ecdsa.scheme later.curve plain.publicKey = .ok authority.publicKey := by
  obtain ⟨haccepted, hvalues, hcredentials⟩ :=
    determined_by_value_of_secret Ecdsa.scheme hasScalarKeys_ecdsa
  obtain ⟨authority, hauthority⟩ := (haccepted .secp256r1 "p" [0x01]).1.2 (by decide)
  obtain ⟨other, hother⟩ := (haccepted .secp256r1 "p" [0x00, 0x01]).1.2 (by decide)
  obtain ⟨hkey, hsame⟩ := hvalues _ _ _ _ _ _ _ hauthority hother (by decide)
  obtain ⟨plain, later, hplain, hlater, -, -, -, -, hreads⟩ :=
    hcredentials authority (.ofSecret _ _ _ hauthority)
  have hback : Ecdsa.scheme.ReadsBack authority.publicKey := by
    rw [eq_withForms_ecdsa hauthority]
    exact readsBack_smallest
  exact ⟨authority, other, hauthority, hother, hkey, (hsame rfl).1, plain, later, hplain, hlater,
    hreads hback⟩

end Authority

end Countersign

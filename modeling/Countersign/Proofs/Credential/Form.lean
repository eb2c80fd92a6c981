/-
# The forms of credentials

Credentials of either generation are encoded as their written form, and read exactly where it
stands: the name behind its length, the code of the curve in the later generation, and a point that
opens with its tag. So what a device stores, and what the root signs for a partner, can be talked
about as bytes.
-/

import Countersign.Credential
import Countersign.Proofs.Wire.Writing

namespace Countersign

/-- Bytes have the form of a point exactly if there are 65 of them and the first is the tag. -/
theorem checkPointForm_eq_ok_iff_head {point : Bytes} :
    checkPointForm point = .ok () ↔
      point.length = uncompressedPointLength ∧ point.head? = some uncompressedPointTag := by
  simp only [checkPointForm, refuse_else_eq_ok_iff, ne_eq, Classical.not_not, and_true]

/-- Bytes have the form of a point exactly if they are the tag and 64 more bytes. -/
theorem checkPointForm_eq_ok_iff {point : Bytes} :
    checkPointForm point = .ok () ↔
      ∃ coordinates, coordinates.length = 64 ∧ point = uncompressedPointTag :: coordinates := by
  rw [checkPointForm_eq_ok_iff_head]
  cases point with
  | nil =>
    constructor
    · rintro ⟨hlength, -⟩
      cases hlength
    · rintro ⟨coordinates, -, hpoint⟩
      cases hpoint
  | cons first coordinates =>
    rw [List.length_cons, List.head?_cons, Option.some.injEq, uncompressedPointLength,
      Nat.succ.injEq]
    constructor
    · rintro ⟨hlength, rfl⟩
      exact ⟨coordinates, hlength, rfl⟩
    · rintro ⟨found, hlength, hpoint⟩
      cases hpoint
      exact ⟨hlength, rfl⟩

/-- Only 65 bytes have the form of a point. -/
theorem length_of_checkPointForm {point : Bytes} (hpoint : checkPointForm point = .ok ()) :
    point.length = uncompressedPointLength :=
  (checkPointForm_eq_ok_iff_head.1 hpoint).1

namespace CredentialNg

/-- No code but its own stands for a curve. -/
theorem curveOfCode_eq_ok_iff {code : UInt8} {curve : Curve} :
    curveOfCode code = .ok curve ↔ code = curve.code := by
  unfold curveOfCode
  constructor
  · intro hread
    split at hread
    · next found hfound =>
      cases hread
      have hcode := List.find?_some hfound
      exact (beq_iff_eq.1 hcode).symm
    · cases hread
  · rintro rfl
    cases curve <;> rfl

end CredentialNg

namespace Credential

/-- What the fields of a credential have to be for it to have a written form. -/
structure Writable (credential : Credential) : Prop where
  name : (Bytes.ofText credential.name).length ≤ maxPrefixed
  publicKey : checkPointForm credential.publicKey = .ok ()

/-- The written form of a credential. -/
def form (credential : Credential) : Bytes :=
  Field.prefixedForm (Bytes.ofText credential.name) ++ credential.publicKey

theorem read_eq_ok_iff {bytes rest : Bytes} {credential : Credential} :
    read bytes = .ok (credential, rest) ↔
      credential.Writable ∧ bytes = credential.form ++ rest := by
  have hform : credential.form ++ rest =
      Field.prefixedForm (Bytes.ofText credential.name) ++ (credential.publicKey ++ rest) :=
    List.append_assoc _ _ _
  simp only [read, bind_eq_ok_iff]
  constructor
  · rintro ⟨⟨name, body⟩, hname, ⟨point, after⟩, hrun, _, hpoint, hfound⟩
    obtain ⟨hshort, rfl⟩ := Field.prefixedText_eq_ok_iff.1 hname
    obtain ⟨-, rfl⟩ := Field.run_eq_ok_iff.1 hrun
    cases hfound
    exact ⟨⟨hshort, hpoint⟩, hform.symm⟩
  · rintro ⟨⟨hshort, hpoint⟩, rfl⟩
    have hname := Field.prefixedText_eq_ok_iff.2 ⟨hshort, hform⟩
    have hrun := Field.run_eq_ok_iff.2 ⟨length_of_checkPointForm hpoint, Eq.refl (_ ++ rest)⟩
    exact ⟨_, hname, _, hrun, (), hpoint, rfl⟩

/-- A credential puts its written form, if it has one. -/
theorem putsForm {credential : Credential} (hwritable : credential.Writable) :
    PutsForm credential credential.form where
  size := by
    have hpoint := hwritable.publicKey
    have hname := prefixedLength_eq_ok_iff.2 ⟨hwritable.name, rfl⟩
    simp only [Encode.encodedLength, hpoint, hname, bind, Except.bind, form, List.length_append,
      Field.length_prefixedForm, length_of_checkPointForm hpoint]
  write buffer := by
    rw [form, ← Buffer.put_put, ← Buffer.putPrefixed_of_length_le hwritable.name]
    simp only [Encode.write, hwritable.publicKey, bind, Except.bind]

theorem encode_eq_form {credential : Credential} (hwritable : credential.Writable) :
    encode credential = .ok credential.form :=
  (putsForm hwritable).encode_eq

theorem writable_of_encodedLength {credential : Credential} {size : Nat}
    (hsize : Encode.encodedLength credential = .ok size) : credential.Writable := by
  obtain ⟨_, hpoint, hrest⟩ := bind_eq_ok_iff.1 hsize
  obtain ⟨count, hcount, -⟩ := bind_eq_ok_iff.1 hrest
  exact ⟨(prefixedLength_eq_ok_iff.1 hcount).1, hpoint⟩

theorem writable_of_write {credential : Credential} {buffer written : Buffer}
    (hwrite : Encode.write credential buffer = .ok written) : credential.Writable := by
  obtain ⟨_, hpoint, hrest⟩ := bind_eq_ok_iff.1 hwrite
  obtain ⟨next, hname, -⟩ := bind_eq_ok_iff.1 hrest
  exact ⟨(Buffer.putPrefixed_eq_ok_iff.1 hname).1, hpoint⟩

/-- A credential is encoded exactly if it has a written form. -/
theorem encode_eq_ok_iff {credential : Credential} {bytes : Bytes} :
    encode credential = .ok bytes ↔ credential.Writable ∧ bytes = credential.form :=
  encode_eq_ok_iff_of_size (fun _ => writable_of_encodedLength) encode_eq_form

end Credential

namespace CredentialNg

/-- What the fields of a credential have to be for it to have a written form. -/
structure Writable (credential : CredentialNg) : Prop where
  name : (Bytes.ofText credential.name).length ≤ maxPrefixed
  publicKey : checkPointForm credential.publicKey = .ok ()

/-- The written form of a credential. -/
def form (credential : CredentialNg) : Bytes :=
  Field.prefixedForm (Bytes.ofText credential.name) ++ [credential.curve.code] ++
    credential.publicKey

theorem read_eq_ok_iff {bytes rest : Bytes} {credential : CredentialNg} :
    read bytes = .ok (credential, rest) ↔
      credential.Writable ∧ bytes = credential.form ++ rest := by
  have hform : credential.form ++ rest = Field.prefixedForm (Bytes.ofText credential.name) ++
      credential.curve.code :: (credential.publicKey ++ rest) := by
    rw [form, List.append_assoc, List.append_assoc, List.singleton_append]
  simp only [read, bind_eq_ok_iff]
  constructor
  · rintro ⟨⟨name, body⟩, hname, ⟨code, body⟩, hbyte, curve, hcurve, ⟨point, after⟩, hrun, _,
      hpoint, hfound⟩
    obtain ⟨hshort, rfl⟩ := Field.prefixedText_eq_ok_iff.1 hname
    obtain rfl := Field.byte_eq_ok_iff.1 hbyte
    obtain rfl := curveOfCode_eq_ok_iff.1 hcurve
    obtain ⟨-, rfl⟩ := Field.run_eq_ok_iff.1 hrun
    cases hfound
    exact ⟨⟨hshort, hpoint⟩, hform.symm⟩
  · rintro ⟨⟨hshort, hpoint⟩, rfl⟩
    have hname := Field.prefixedText_eq_ok_iff.2 ⟨hshort, hform⟩
    have hrun := Field.run_eq_ok_iff.2 ⟨length_of_checkPointForm hpoint, Eq.refl (_ ++ rest)⟩
    exact ⟨_, hname, _, Field.byte_eq_ok_iff.2 rfl, _, curveOfCode_eq_ok_iff.2 rfl, _, hrun, (),
      hpoint, rfl⟩

/-- A credential puts its written form, if it has one. -/
theorem putsForm {credential : CredentialNg} (hwritable : credential.Writable) :
    PutsForm credential credential.form where
  size := by
    have hpoint := hwritable.publicKey
    have hname := prefixedLength_eq_ok_iff.2 ⟨hwritable.name, rfl⟩
    simp only [Encode.encodedLength, hpoint, hname, bind, Except.bind, form, List.length_append,
      Field.length_prefixedForm, List.length_singleton, length_of_checkPointForm hpoint]
  write buffer := by
    rw [form, ← Buffer.put_put, ← Buffer.put_put, ← Buffer.putPrefixed_of_length_le hwritable.name]
    simp only [Encode.write, hwritable.publicKey, bind, Except.bind]
    cases buffer.putPrefixed (Bytes.ofText credential.name) <;> rfl

theorem encode_eq_form {credential : CredentialNg} (hwritable : credential.Writable) :
    encode credential = .ok credential.form :=
  (putsForm hwritable).encode_eq

theorem writable_of_encodedLength {credential : CredentialNg} {size : Nat}
    (hsize : Encode.encodedLength credential = .ok size) : credential.Writable := by
  obtain ⟨_, hpoint, hrest⟩ := bind_eq_ok_iff.1 hsize
  obtain ⟨count, hcount, -⟩ := bind_eq_ok_iff.1 hrest
  exact ⟨(prefixedLength_eq_ok_iff.1 hcount).1, hpoint⟩

theorem writable_of_write {credential : CredentialNg} {buffer written : Buffer}
    (hwrite : Encode.write credential buffer = .ok written) : credential.Writable := by
  obtain ⟨_, hpoint, hrest⟩ := bind_eq_ok_iff.1 hwrite
  obtain ⟨next, hname, -⟩ := bind_eq_ok_iff.1 hrest
  exact ⟨(Buffer.putPrefixed_eq_ok_iff.1 hname).1, hpoint⟩

/-- A credential is encoded exactly if it has a written form. -/
theorem encode_eq_ok_iff {credential : CredentialNg} {bytes : Bytes} :
    encode credential = .ok bytes ↔ credential.Writable ∧ bytes = credential.form :=
  encode_eq_ok_iff_of_size (fun _ => writable_of_encodedLength) encode_eq_form

end CredentialNg

end Countersign

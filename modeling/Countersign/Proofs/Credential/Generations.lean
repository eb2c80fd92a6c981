/-
# Two generations of credentials

The forms of the two generations differ by one byte, the code of the curve, behind a name of any
length. Each form is self-delimiting, and the byte is enough to tell them apart: behind the same
name the later form is longer, so no byte string is a credential of both generations as a whole.
What the root has signed for a partner of one generation is therefore never taken for a credential
in a flow of the other one.
-/

import Countersign.Proofs.Credential.Form
import Countersign.Proofs.Device.Authorisation
import Countersign.Proofs.Wire.SelfDelimiting

namespace Countersign

namespace Credential

theorem readsForms : ReadsForms Writable form :=
  read_eq_ok_iff

/-- The form breaks off in the name or in the point. -/
theorem findsShort_read {credential : Credential} (hwritable : credential.Writable) :
    FindsShort read credential.form := by
  refine (Field.findsShort_prefixedText hwritable.name).append
    (fun rest => Field.prefixedText_eq_ok_iff.2 ⟨hwritable.name, rfl⟩) ?_
  exact (Field.findsShort_run (length_of_checkPointForm hwritable.publicKey)).bind

theorem selfDelimiting : SelfDelimiting Credential :=
  readsForms.selfDelimiting encode_eq_ok_iff findsShort_read

/-- A credential has a form exactly if its key has that of a point and its name fits behind one
byte. -/
theorem writable_iff {credential : Credential} :
    credential.Writable ↔
      (credential.publicKey.length = 65 ∧ credential.publicKey.head? = some 0x04) ∧
        (Bytes.ofText credential.name).length ≤ maxPrefixed := by
  have hpoint := @checkPointForm_eq_ok_iff_head credential.publicKey
  exact ⟨fun hwritable => ⟨hpoint.1 hwritable.publicKey, hwritable.name⟩,
    fun hfields => ⟨hfields.2, hpoint.2 hfields.1⟩⟩

end Credential

namespace CredentialNg

theorem readsForms : ReadsForms Writable form :=
  read_eq_ok_iff

/-- The form breaks off in the name, before the code of the curve, or in the point. -/
theorem findsShort_read {credential : CredentialNg} (hwritable : credential.Writable) :
    FindsShort read credential.form := by
  rw [form, List.append_assoc]
  refine (Field.findsShort_prefixedText hwritable.name).append
    (fun rest => Field.prefixedText_eq_ok_iff.2 ⟨hwritable.name, rfl⟩) ?_
  refine (Field.findsShort_byte _).append (fun rest => Field.byte_eq_ok_iff.2 rfl) ?_
  simp only [curveOfCode_eq_ok_iff.2 rfl, bind, Except.bind]
  exact (Field.findsShort_run (length_of_checkPointForm hwritable.publicKey)).bind

theorem selfDelimiting : SelfDelimiting CredentialNg :=
  readsForms.selfDelimiting encode_eq_ok_iff findsShort_read

/-- A credential has a form exactly if its key has that of a point and its name fits behind one
byte. -/
theorem writable_iff {credential : CredentialNg} :
    credential.Writable ↔
      (credential.publicKey.length = 65 ∧ credential.publicKey.head? = some 0x04) ∧
        (Bytes.ofText credential.name).length ≤ maxPrefixed := by
  have hpoint := @checkPointForm_eq_ok_iff_head credential.publicKey
  exact ⟨fun hwritable => ⟨hpoint.1 hwritable.publicKey, hwritable.name⟩,
    fun hfields => ⟨hfields.2, hpoint.2 hfields.1⟩⟩

end CredentialNg

/-- Behind the same name, the form that names the curve is one byte longer. -/
theorem Credential.form_ne_form {plain : Credential} {later : CredentialNg}
    (hplain : plain.Writable) (hlater : later.Writable) : plain.form ≠ later.form := by
  intro hsame
  rw [Credential.form, CredentialNg.form, List.append_assoc] at hsame
  obtain ⟨-, hkey⟩ := Field.prefixedForm_append_inj hplain.name hlater.name hsame
  have hlength := congrArg List.length hkey
  rw [List.length_append, List.length_singleton, length_of_checkPointForm hplain.publicKey,
    length_of_checkPointForm hlater.publicKey] at hlength
  exact absurd hlength (by decide)

/-- No byte string is a credential of both generations as a whole. -/
theorem Credential.read_ne_of_read {bytes : Bytes} {plain : Credential} {later : CredentialNg}
    (hplain : Credential.read bytes = .ok (plain, [])) :
    CredentialNg.read bytes ≠ .ok (later, []) := by
  intro hlater
  obtain ⟨hwritable, hbytes⟩ := Credential.read_eq_ok_iff.1 hplain
  obtain ⟨hwritable', hbytes'⟩ := CredentialNg.read_eq_ok_iff.1 hlater
  rw [List.append_nil] at hbytes hbytes'
  exact Credential.form_ne_form hwritable hwritable' (hbytes.symm.trans hbytes')

/-- What is registered in a flow of the first generation is not in one of the later generation. -/
theorem not_registers_of_registers {S : SignatureScheme} {first second : Flow} {bytes : Bytes}
    (hplain : first.isNg = false) (hlater : second.isNg = true)
    (hregisters : Registers S first bytes) : ¬Registers S second bytes := by
  simp only [Registers, hplain, hlater, Bool.false_eq_true, if_false, if_true] at hregisters ⊢
  obtain ⟨plain, hread, -⟩ := hregisters
  rintro ⟨later, hread', -⟩
  exact Credential.read_ne_of_read hread hread'

/-- A byte string is registered in flows of one generation only. -/
theorem isNg_eq_of_registers {S : SignatureScheme} {first second : Flow} {bytes : Bytes}
    (hfirst : Registers S first bytes) (hsecond : Registers S second bytes) :
    first.isNg = second.isNg := by
  cases hng : first.isNg <;> cases hng' : second.isNg
  case false.false => rfl
  case true.true => rfl
  case false.true => exact absurd hsecond (not_registers_of_registers hng hng' hfirst)
  case true.false => exact absurd hfirst (not_registers_of_registers hng' hng hsecond)

/-- Credentials of either generation have an encoding exactly if their key has the form of a point
and their name fits behind one byte, the encoding is the only one and says where it ends, and the
encodings of the two generations are never the same. So a device that takes a byte string as
credentials in a flow takes it in no flow of the other generation. -/
theorem credentials_told_apart :
    ((∀ credential : Credential, (∃ bytes, encode credential = .ok bytes) ↔
          (credential.publicKey.length = 65 ∧ credential.publicKey.head? = some 0x04) ∧
            (Bytes.ofText credential.name).length ≤ maxPrefixed) ∧
        SelfDelimiting Credential) ∧
      ((∀ credential : CredentialNg, (∃ bytes, encode credential = .ok bytes) ↔
          (credential.publicKey.length = 65 ∧ credential.publicKey.head? = some 0x04) ∧
            (Bytes.ofText credential.name).length ≤ maxPrefixed) ∧
        SelfDelimiting CredentialNg) ∧
      (∀ (bytes : Bytes) (plain : Credential) (later : CredentialNg),
        decode bytes = .ok (plain, bytes.length) → decode bytes ≠ .ok (later, bytes.length)) ∧
      ∀ (S : SignatureScheme) (first second next later : Device S) (p2 p2' : UInt8) (data : Bytes),
        first.setPartnerKey p2 data = .ok next → second.setPartnerKey p2' data = .ok later →
          first.flow.isNg = second.flow.isNg := by
  refine ⟨⟨fun credential => ?_, Credential.selfDelimiting⟩,
    ⟨fun credential => ?_, CredentialNg.selfDelimiting⟩, ?_, ?_⟩
  · rw [← Credential.writable_iff]
    exact exists_encode_iff Credential.encode_eq_ok_iff
  · rw [← CredentialNg.writable_iff]
    exact exists_encode_iff CredentialNg.encode_eq_ok_iff
  · intro bytes plain later hplain hlater
    obtain ⟨-, hwritable, hbytes⟩ := Credential.readsForms.decode_eq_ok_iff_take.1 hplain
    obtain ⟨-, hwritable', hbytes'⟩ := CredentialNg.readsForms.decode_eq_ok_iff_take.1 hlater
    exact Credential.form_ne_form hwritable hwritable' (hbytes.symm.trans hbytes')
  · intro S first second next later p2 p2' data hnext hlater
    obtain ⟨-, hfirst, -⟩ := Device.setPartnerKey_eq_ok_iff.1 hnext
    obtain ⟨-, hsecond, -⟩ := Device.setPartnerKey_eq_ok_iff.1 hlater
    exact isNg_eq_of_registers hfirst hsecond

open Device in
/-- The credentials of the sample have 67 bytes and are read back from longer ones, and they are too
short without the last byte. They are set in a swap, and so in no flow of the later generation. -/
theorem credentials_told_apart_swap :
    (∃ credential : Credential, encode credential = .ok sampleCredentials ∧
        decode (sampleCredentials ++ [0x07]) = .ok (credential, 67) ∧
        ∀ later : CredentialNg, decode sampleCredentials ≠ .ok (later, 67)) ∧
      (decode (sampleCredentials.take 66) : Except WireError (Credential × Nat)) =
        .error .invalidLength ∧
      (∃ next, ((new sampleConfig default).start 0).setPartnerKey 0 sampleCredentials = .ok next) ∧
      ∀ (device next : Device Ecdsa.scheme) (p2 : UInt8), device.flow.isNg = true →
        device.setPartnerKey p2 sampleCredentials ≠ .ok next := by
  obtain ⟨⟨-, hplain⟩, -, hapart, hdevice⟩ := credentials_told_apart
  have hencode : encode (⟨"p", sampleCredentials.drop 2⟩ : Credential) = .ok sampleCredentials :=
    toOption_eq_some_iff.1 (by decide +kernel)
  have hwhole := hplain.decode_append hencode []
  rw [List.append_nil] at hwhole
  have hset : (((new sampleConfig default).start 0).setPartnerKey 0
      sampleCredentials).toOption.isSome := by decide +kernel
  obtain ⟨started, hfound⟩ := Option.isSome_iff_exists.1 hset
  have hstarted := toOption_eq_some_iff.1 hfound
  refine ⟨⟨_, hencode, hplain.decode_append hencode [0x07], fun later => ?_⟩,
    hplain.decode_take hencode 66 (by decide +kernel), ⟨started, hstarted⟩, ?_⟩
  · exact hapart _ _ later hwhole
  · intro device next p2 hng hnext
    have hsame := hdevice Ecdsa.scheme _ device started next 0 p2 sampleCredentials hstarted hnext
    rw [hng] at hsame
    exact Bool.false_ne_true hsame

end Countersign

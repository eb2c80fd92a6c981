/-
# Where the signature of an address check ends

An address check is written with any bytes for a signature, and nothing marks where they end. The
main statement is that it reads back exactly if the signature says itself where it ends, as a DER
sequence in short form does. Then no byte of the configuration before the signature, or of the path
behind it, is taken for a part of the signature. Two numbers of 32 bytes, as ECDSA makes them, are
always written as such a sequence.

With other bytes for a signature, an address check may still be read, but as other parts.
-/

import Countersign.Proofs.Bytes.BigEndian
import Countersign.Proofs.Command.AddressCheck
import Countersign.Proofs.Wire.SelfDelimiting
import Countersign.Signature.Sequence

namespace Countersign

namespace SignatureSequence

open AddressCheck (IsSequence)

/-- A number of 32 bytes takes a tag, a length, and one byte more if it would read as negative. -/
theorem length_integer_le {number : Nat} (hnumber : number < 256 ^ 32) :
    (integer number).length ≤ 35 := by
  have hwidth := (BigEndian.lt_pow_iff_minimalWidth_le (by decide)).1 hnumber
  rw [← BigEndian.length_minimal] at hwidth
  have hcontent : (integerContent number).length ≤ (BigEndian.minimal number).length + 1 := by
    unfold integerContent
    split
    · exact Nat.zero_le _
    · next hminimal =>
      rw [hminimal]
      split
      · exact Nat.le_succ _
      · exact Nat.le_refl _
  rw [integer, List.length_cons, List.length_cons]
  omega

theorem isSequence_encode {r s : Nat} (hr : r < 256 ^ 32) (hs : s < 256 ^ 32) :
    IsSequence (encode r s) := by
  have hr := length_integer_le hr
  have hs := length_integer_le hs
  refine ⟨integer r ++ integer s, ?_, rfl⟩
  rw [List.length_append, maxPrefixed]
  omega

end SignatureSequence

namespace AddressCheck

theorem readsForms :
    ReadsForms (fun check => check.Writable ∧ IsSequence check.signature) form :=
  read_eq_ok_iff.trans and_assoc.symm

/-- The encoding of a check decodes as the check exactly if its signature is a sequence. -/
theorem decode_form_iff {check : AddressCheck} (hwritable : check.Writable) :
    decode check.form = .ok (check, check.form.length) ↔ IsSequence check.signature := by
  rw [readsForms.decode_eq_ok_iff]
  constructor
  · rintro ⟨⟨-, hsequence⟩, -, -⟩
    exact hsequence
  · intro hsequence
    exact ⟨⟨hwritable, hsequence⟩, List.prefix_refl _, rfl⟩

/-- An address check that can be written is read back exactly if its signature is a sequence, then
also from longer bytes. What is read as a check is the encoding of the check, and its signature is a
sequence. What is read as a whole is not read if anything of it is missing at the end. Two numbers
of 32 bytes are such a sequence. -/
theorem delimited_by_sequence :
    (∀ check : AddressCheck, check.config.length ≤ maxPrefixed → check.path.length ≤ maxPrefixed →
        ∃ bytes, encode check = .ok bytes ∧
          (decode bytes = .ok (check, bytes.length) ↔ IsSequence check.signature) ∧
          (IsSequence check.signature →
            ∀ rest, decode (bytes ++ rest) = .ok (check, bytes.length))) ∧
      (∀ (bytes : Bytes) (check : AddressCheck) (count : Nat),
        decode bytes = .ok (check, count) →
          count ≤ bytes.length ∧ encode check = .ok (bytes.take count) ∧
            IsSequence check.signature) ∧
      (∀ (bytes : Bytes) (check : AddressCheck), decode bytes = .ok (check, bytes.length) →
        ∀ cut < bytes.length, ∃ cause,
          (decode (bytes.take cut) : Except WireError (AddressCheck × Nat)) = .error cause) ∧
      ∀ r s : Nat, r < 256 ^ 32 → s < 256 ^ 32 → IsSequence (SignatureSequence.encode r s) := by
  refine ⟨?_, ?_, ?_, ?_⟩
  · intro check hconfig hpath
    have hwritable : check.Writable := ⟨hconfig, hpath⟩
    refine ⟨check.form, encode_eq_ok_iff.2 ⟨hwritable, rfl⟩, decode_form_iff hwritable, ?_⟩
    intro hsequence rest
    exact readsForms.decode_form_append ⟨hwritable, hsequence⟩ rest
  · intro bytes check count hdecode
    obtain ⟨hcount, ⟨hwritable, hsequence⟩, htake⟩ := readsForms.decode_eq_ok_iff_take.1 hdecode
    exact ⟨hcount, encode_eq_ok_iff.2 ⟨hwritable, htake⟩, hsequence⟩
  · intro bytes check hwhole cut hcut
    exact readsForms.decode_take_of_whole hwhole hcut
  · intro r s hr hs
    exact SignatureSequence.isSequence_encode hr hs

/-- A check with two numbers for a signature, which delimit themselves. -/
def sampleDelimited : AddressCheck :=
  ⟨[0x41], SignatureSequence.encode 5 7, [0x07]⟩

/-- A check without a signature. The length of its path reads as the tag of a sequence, and the
first byte of the path as the length of this sequence. -/
def sampleUndelimited : AddressCheck :=
  ⟨[0x41], [], 0x2d :: List.replicate 45 0x00 ++ [0x01, 0x07]⟩

/-- What its bytes are taken for, with most of the path for a signature. -/
def sampleMistaken : AddressCheck :=
  ⟨[0x41], [0x30, 0x2d] ++ List.replicate 45 0x00, [0x07]⟩

/-- The first check is read back in front of more bytes, and not from fewer. The second one is
encoded as another check, and read back as that one. -/
theorem delimited_by_sequence_sample :
    (∃ bytes, encode sampleDelimited = .ok bytes ∧
        decode (bytes ++ [0xff]) = .ok (sampleDelimited, bytes.length) ∧
        ∃ cause, (decode bytes.dropLast : Except WireError (AddressCheck × Nat)) = .error cause) ∧
      ∃ bytes, encode sampleUndelimited = .ok bytes ∧
        decode bytes ≠ .ok (sampleUndelimited, bytes.length) ∧
        encode sampleMistaken = .ok bytes ∧ decode bytes = .ok (sampleMistaken, bytes.length) := by
  obtain ⟨hback, -, hwhole, hnumbers⟩ := delimited_by_sequence
  constructor
  · have hsequence : IsSequence sampleDelimited.signature := hnumbers 5 7 (by decide) (by decide)
    obtain ⟨bytes, hencode, hiff, hlonger⟩ := hback sampleDelimited (by decide) (by decide)
    have hlength : bytes.length = 12 := by rw [(encode_eq_ok_iff.1 hencode).2]; decide
    refine ⟨bytes, hencode, hlonger hsequence [0xff], ?_⟩
    rw [List.dropLast_eq_take, hlength]
    exact hwhole bytes sampleDelimited (hiff.2 hsequence) 11 (by omega)
  · obtain ⟨bytes, hencode, hiff, -⟩ := hback sampleUndelimited (by decide) (by decide)
    obtain ⟨same, hencode', hiff', -⟩ := hback sampleMistaken (by decide) (by decide)
    obtain rfl : same = bytes := by
      rw [(encode_eq_ok_iff.1 hencode).2, (encode_eq_ok_iff.1 hencode').2]
      decide
    refine ⟨same, hencode, ?_, hencode', hiff'.2 ⟨List.replicate 45 0x00, by decide, rfl⟩⟩
    rw [ne_eq, hiff]
    rintro ⟨body, -, hnone⟩
    exact absurd hnone (List.cons_ne_nil _ _).symm

end AddressCheck

end Countersign

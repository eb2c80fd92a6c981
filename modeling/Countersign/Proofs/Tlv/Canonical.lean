/-
# One form for each record

Numbers, and so tags, lengths and records, have exactly one form: whatever is read from the front
of a byte string is written back as the bytes that were read. So the records of a byte string can
be talked about in place of its bytes.
-/

import Countersign.Proofs.Bytes.BigEndian
import Countersign.Proofs.Wire.SelfDelimiting
import Countersign.Tlv.Record

namespace Countersign

namespace Der

open BigEndian

/-- The first byte of a long form says how many bytes follow. -/
theorem long_first_eq {first : UInt8} (hlong : ¬first < 0x80) :
    0x80 ||| UInt8.ofNat (first &&& 0x7f).toNat = first := by
  cases first with
  | ofBitVec byte =>
    cases byte with
    | ofFin byte =>
      revert byte
      decide +kernel

theorem width_of_long_first {width : Nat} (hwidth : width ≤ 8) :
    ¬(0x80 ||| UInt8.ofNat width) < 0x80 ∧
      ((0x80 ||| UInt8.ofNat width) &&& 0x7f).toNat = width := by
  have hall : ∀ width < 9, ¬(0x80 ||| UInt8.ofNat width) < 0x80 ∧
      ((0x80 ||| UInt8.ofNat width) &&& 0x7f).toNat = width := by decide
  exact hall width (Nat.lt_succ_of_le hwidth)

theorem minimalWidth_le (number : UInt64) : minimalWidth number.toNat ≤ 8 := by
  by_cases hzero : number.toNat = 0
  · rw [hzero]
    decide
  · have hlog := (Nat.log2_lt hzero).2 number.toNat_lt
    rw [minimalWidth]
    omega

/-- A number below `0x80` is its own byte. -/
theorem toUInt8_of_short {number : UInt64} (hshort : number < 0x80) :
    number.toUInt8 < 0x80 ∧ number.toUInt8.toUInt64 = number := by
  have hlt : number.toNat < 128 := UInt64.lt_iff_toNat_lt.1 hshort
  have hbyte : number.toUInt8.toNat = number.toNat := by
    rw [UInt64.toNat_toUInt8]
    omega
  constructor
  · rw [UInt8.lt_iff_toNat_lt, hbyte]
    exact hlt
  · rw [← UInt64.toNat_inj, UInt8.toNat_toUInt64, hbyte]

/-- Reading the form of a number gives the number back. -/
theorem read_encode_append (number : UInt64) (rest : Bytes) :
    read (encode number ++ rest) = .ok (number, rest) := by
  by_cases hshort : number < 0x80
  · obtain ⟨hfirst, hsame⟩ := toUInt8_of_short hshort
    rw [encode, if_pos hshort, List.singleton_append, read, if_pos hfirst, hsame]
  · have hle : 128 ≤ number.toNat := Nat.not_lt.1 fun hlt =>
      hshort (UInt64.lt_iff_toNat_lt.2 hlt)
    have hwidth := minimalWidth_le number
    obtain ⟨hlong, hcount⟩ := width_of_long_first hwidth
    have hpositive : 0 < minimalWidth number.toNat := Nat.succ_pos _
    have hhead : (minimal number.toNat).head? ≠ some 0 := head?_minimal_ne (by omega)
    have hlength : (minimal number.toNat).length = minimalWidth number.toNat :=
      length_minimal number.toNat
    have hminimal : ¬((minimal number.toNat).head? = some 0 ∨ number.toNat < 0x80) := by
      rintro (hzero | hsmall)
      · exact hhead hzero
      · omega
    have hroom : ¬(minimal number.toNat ++ rest).length < minimalWidth number.toNat := by
      rw [List.length_append, hlength]
      omega
    rw [encode, if_neg hshort, List.cons_append, read, hlength, if_neg hlong]
    simp only [hcount]
    rw [if_neg (by omega), if_neg hroom, ← hlength, List.take_left, List.drop_left, value_minimal,
      if_neg hminimal, UInt64.ofNat_toNat]

/-- Digits without a leading zero are those of the long form of their value, if this has one. -/
theorem encode_of_digits {digits : Bytes} (hlength : digits.length ≤ 8)
    (hminimal : ¬(digits.head? = some 0 ∨ value digits < 0x80)) :
    encode (UInt64.ofNat (value digits)) = (0x80 ||| UInt8.ofNat digits.length) :: digits := by
  have hnumber := toNat_ofNat_value hlength
  have hlong : ¬UInt64.ofNat (value digits) < 0x80 := by
    rw [UInt64.lt_iff_toNat_lt, hnumber]
    exact fun hsmall => hminimal (Or.inr hsmall)
  have hsome : digits ≠ [] := by
    rintro rfl
    exact hminimal (Or.inr (by decide))
  simp only [encode, if_neg hlong, hnumber,
    minimal_value hsome fun hzero => hminimal (Or.inl hzero)]

/-- What was read as a number is the form of the number. -/
theorem encode_append_of_read {bytes rest : Bytes} {number : UInt64}
    (hread : read bytes = .ok (number, rest)) : bytes = encode number ++ rest := by
  cases bytes with
  | nil => cases hread
  | cons first bytes =>
    rw [read] at hread
    by_cases hfirst : first < 0x80
    · rw [if_pos hfirst] at hread
      cases hread
      have hlt : first.toNat < 128 := UInt8.lt_iff_toNat_lt.1 hfirst
      have hshort : first.toUInt64 < 0x80 := by
        rw [UInt64.lt_iff_toNat_lt, UInt8.toNat_toUInt64]
        exact hlt
      rw [encode, if_pos hshort, UInt8.toUInt8_toUInt64]
      rfl
    · rw [if_neg hfirst] at hread
      dsimp only at hread
      split at hread
      · cases hread
      · next hwidth =>
        split at hread
        · cases hread
        · next hroom =>
          split at hread
          · cases hread
          · next hminimal =>
            cases hread
            have hlength : (bytes.take (first &&& 0x7f).toNat).length = (first &&& 0x7f).toNat := by
              rw [List.length_take]
              omega
            rw [encode_of_digits (by omega) hminimal, hlength, long_first_eq hfirst,
              List.cons_append, List.take_append_drop]

/-- The form of a number that breaks off is too short, wherever it breaks off. -/
theorem read_take_encode (number : UInt64) {cut : Nat} (hcut : cut < (encode number).length) :
    read ((encode number).take cut) = .error .invalidLength := by
  cases cut with
  | zero => rfl
  | succ cut =>
    by_cases hshort : number < 0x80
    · rw [encode, if_pos hshort, List.length_singleton] at hcut
      omega
    · have hwidth := minimalWidth_le number
      obtain ⟨hlong, hcount⟩ := width_of_long_first hwidth
      have hpositive : 0 < minimalWidth number.toNat := Nat.succ_pos _
      rw [encode, if_neg hshort] at hcut ⊢
      simp only [List.length_cons, length_minimal] at hcut
      have hmissing : ((minimal number.toNat).take cut).length < minimalWidth number.toNat := by
        rw [List.length_take, length_minimal]
        omega
      rw [List.take_succ_cons, read, length_minimal, if_neg hlong]
      simp only [hcount]
      rw [if_neg (by omega), if_pos hmissing]

theorem encode_ofNat_of_lt {length : Nat} (hshort : length < 128) :
    encode (UInt64.ofNat length) = [UInt8.ofNat length] := by
  have hnumber : UInt64.ofNat length < 0x80 := by
    rw [UInt64.lt_iff_toNat_lt, UInt64.toNat_ofNat']
    exact Nat.lt_of_le_of_lt (Nat.mod_le _ _) hshort
  rw [encode, if_pos hnumber, UInt64.toUInt8_ofNat']

/-- No letter begins with the first byte of a long form. -/
theorem not_isUTF8FirstByte_of_width {width : Nat} (hwidth : width ≤ 8) :
    ¬(0x80 ||| UInt8.ofNat width).IsUTF8FirstByte := by
  have hall : ∀ width < 9, ¬(0x80 ||| UInt8.ofNat width).IsUTF8FirstByte := by decide
  exact hall width (Nat.lt_succ_of_le hwidth)

/-- A form that begins like a text is a short one. -/
theorem eq_of_encode_append_eq_cons {number : UInt64} {first : UInt8} {rest bytes : Bytes}
    (hencode : encode number ++ rest = first :: bytes) (hfirst : first.IsUTF8FirstByte) :
    first < 0x80 ∧ number = first.toUInt64 ∧ rest = bytes := by
  by_cases hshort : number < 0x80
  · obtain ⟨hbyte, hsame⟩ := toUInt8_of_short hshort
    rw [encode, if_pos hshort, List.singleton_append, List.cons.injEq] at hencode
    obtain ⟨rfl, hrest⟩ := hencode
    exact ⟨hbyte, hsame.symm, hrest⟩
  · rw [encode, if_neg hshort, List.cons_append, List.cons.injEq, length_minimal] at hencode
    obtain ⟨rfl, -⟩ := hencode
    exact absurd hfirst (not_isUTF8FirstByte_of_width (minimalWidth_le number))

/-- The announced size of a number is that of its form. -/
theorem length_encode (number : UInt64) : (encode number).length = encodedLength number := by
  unfold encode encodedLength
  split
  · rfl
  · rw [List.length_cons, length_minimal, Nat.add_comm]

/-- A number puts its form. -/
theorem write_eq_put (number : UInt64) (buffer : Buffer) :
    write number buffer = buffer.put (encode number) := by
  rw [write, ← length_encode]
  by_cases hroom : buffer.room.length < (encode number).length
  · rw [if_pos hroom, Buffer.put, if_pos hroom]
  · rw [if_neg hroom]

end Der

namespace Tlv

/-- The form of a record. -/
def form (record : Tlv) : Bytes :=
  format record.tag (.bytes record.value)

/-- The length of the value is a number that a record can carry. -/
def Fits (record : Tlv) : Prop :=
  record.value.length < 2 ^ 64

/-- Tag and length take at least one byte each. -/
theorem two_le_length_form (record : Tlv) : 2 ≤ record.form.length := by
  have hpositive : ∀ number, 0 < (Der.encode number).length := by
    intro number
    rw [Der.encode]
    split <;> exact Nat.succ_pos _
  have htag := hpositive record.tag
  have hlength := hpositive (UInt64.ofNat (TlvValue.bytes record.value).length)
  rw [form, format, List.length_append, List.length_append]
  omega

theorem form_ne_nil (record : Tlv) : record.form ≠ [] :=
  List.ne_nil_of_length_pos (Nat.lt_of_lt_of_le Nat.two_pos record.two_le_length_form)

/-- Reading the form of a record gives the record back. -/
theorem read_form_append {record : Tlv} (hfits : record.Fits) (rest : Bytes) :
    read (record.form ++ rest) = .ok (record, rest) := by
  have hlength : (UInt64.ofNat record.value.length).toNat = record.value.length := by
    rw [UInt64.toNat_ofNat', Nat.mod_eq_of_lt hfits]
  have hroom : ¬(record.value ++ rest).length < record.value.length := by
    rw [List.length_append]
    omega
  rw [form, format, TlvValue.toBytes, TlvValue.length, List.append_assoc, List.append_assoc, read,
    Der.read_encode_append]
  simp only [bind, Except.bind, Der.read_encode_append, hlength, if_neg hroom, List.take_left,
    List.drop_left]

/-- The form of a record that breaks off is too short, be it in the tag, in the length or in the
value. -/
theorem read_take_form {record : Tlv} (hfits : record.Fits) {cut : Nat}
    (hcut : cut < record.form.length) :
    read (record.form.take cut) = .error .invalidLength := by
  have hlength : (UInt64.ofNat record.value.length).toNat = record.value.length := by
    rw [UInt64.toNat_ofNat', Nat.mod_eq_of_lt hfits]
  have hshort : FindsShort read record.form := by
    rw [form, format, TlvValue.toBytes, TlvValue.length, List.append_assoc]
    refine FindsShort.append (fun _ => Der.read_take_encode _) (Der.read_encode_append _) ?_
    refine FindsShort.append (fun _ => Der.read_take_encode _) (Der.read_encode_append _) ?_
    intro later hlater
    refine if_pos ?_
    rw [hlength, List.length_take]
    omega
  exact hshort cut hcut

/-- What was read as a record is the form of the record. -/
theorem form_append_of_read {bytes rest : Bytes} {record : Tlv}
    (hread : read bytes = .ok (record, rest)) : bytes = record.form ++ rest ∧ record.Fits := by
  obtain ⟨⟨tag, later⟩, htag, hlater⟩ := bind_eq_ok_iff.1 hread
  obtain ⟨⟨count, body⟩, hcount, hbody⟩ := bind_eq_ok_iff.1 hlater
  dsimp only at hcount hbody
  split at hbody
  · cases hbody
  · next hroom =>
    cases hbody
    have hlength : (body.take count.toNat).length = count.toNat := by
      rw [List.length_take]
      omega
    refine ⟨?_, ?_⟩
    · rw [form, format, TlvValue.toBytes, TlvValue.length, hlength, UInt64.ofNat_toNat,
        List.append_assoc, List.append_assoc, List.take_append_drop,
        ← Der.encode_append_of_read hcount, ← Der.encode_append_of_read htag]
    · rw [Fits, hlength]
      exact count.toNat_lt

/-- A record is read exactly where its form stands. -/
theorem readsForms : ReadsForms Fits form := by
  intro bytes rest record
  constructor
  · intro hread
    exact (form_append_of_read hread).symm
  · rintro ⟨hfits, rfl⟩
    exact read_form_append hfits rest

/-- Every record puts its form, whatever the length of its value. -/
theorem putsForm (record : Tlv) : PutsForm record record.form where
  size := by
    simp only [Encode.encodedLength, form, format, TlvValue.toBytes, TlvValue.length,
      List.length_append, Der.length_encode]
  write buffer := by
    rw [form, format, ← Buffer.put_put, ← Buffer.put_put, ← Der.write_eq_put]
    simp only [Encode.write, Der.write_eq_put, bind, Except.bind]
    cases buffer.put (Der.encode record.tag) <;> rfl

end Tlv

end Countersign

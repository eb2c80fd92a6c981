/-
# Reading a sequence of records back

A row of records is read back as it was written, and what is read of any byte string was written as
the bytes that were read. A row that is cut off anywhere still gives every record that stands wholly
before the cut, and the reader notices that something is missing unless the cut falls between two
records.
-/

import Countersign.Proofs.Tlv.Walk

namespace Countersign.Tlv.Reader

/-- The reader of a byte string reports these records, each with the offset at which it ends in
their row, then the refusal, if there is one, with the offset of the end, and then nothing for
ever. -/
structure Reports (bytes : Bytes) (records : List Tlv) (fault : Option WireError) : Prop where
  count : (items bytes).1.length = records.length + fault.toList.length
  record : ∀ i (hi : i < records.length),
    (items bytes).1[i]? = some (.ok records[i], ((records.take (i + 1)).flatMap form).length)
  fault : ∀ cause ∈ fault, (items bytes).1[records.length]? = some (.error cause, bytes.length)
  /-- However often the reader is asked, it reports these items from the first one on. -/
  calls : ∀ limit, (itemsWithin limit (start bytes)).1 = (items bytes).1.take limit
  finished : (items bytes).2 = ⟨bytes, bytes.length⟩
  stays : ∀ limit, itemsWithin limit (items bytes).2 = ([], (items bytes).2)

/-- What is reported of a row of records, and of bytes with which none opens. -/
theorem reports_of_halts {records : List Tlv} (hfits : ∀ record ∈ records, record.Fits)
    {rest : Bytes} {fault : Option WireError} (hhalts : Halts rest fault) :
    Reports (records.flatMap form ++ rest) records fault := by
  have hitems := items_of_halts hfits hhalts
  constructor
  · rw [hitems, List.length_append, length_located, length_refused]
  · intro i hi
    have hbefore : i < (located 0 records).length := by rwa [length_located]
    rw [hitems, List.getElem?_append_left hbefore, getElem?_located 0 hi, Nat.zero_add]
  · intro cause hcause
    have hbehind : (located 0 records).length ≤ records.length :=
      Nat.le_of_eq (length_located 0 records)
    rw [hitems, List.getElem?_append_right hbehind, length_located, Nat.sub_self, hcause]
    rfl
  · intro limit
    rw [hitems]
    exact (itemsWithin_of_halts hfits hhalts [] limit).1
  · rw [hitems]
  · intro limit
    rw [hitems]
    exact itemsWithin_of_end (Nat.le_refl _) limit

/-- A row that is cut off is the row of the records that stand wholly before the cut, and then a
part of the next one. -/
theorem exists_take_flatMap_form (records : List Tlv) {cut : Nat}
    (hcut : cut ≤ (records.flatMap form).length) :
    ∃ whole ≤ records.length, ∃ part : Bytes,
      (records.flatMap form).take cut = (records.take whole).flatMap form ++ part ∧
        (∀ count ≤ records.length,
          ((records.take count).flatMap form).length ≤ cut ↔ count ≤ whole) ∧
        (part = [] ∨ ∃ record ∈ records, ∃ size < record.form.length,
          part = record.form.take size) := by
  induction records generalizing cut with
  | nil =>
    refine ⟨0, Nat.le_refl 0, [], List.take_nil, ?_, Or.inl rfl⟩
    intro count hcount
    rw [List.take_nil]
    exact ⟨fun _ => hcount, fun _ => Nat.zero_le cut⟩
  | cons record records ih =>
    rw [List.flatMap_cons] at hcut ⊢
    by_cases hbefore : record.form.length ≤ cut
    · obtain ⟨later, rfl⟩ := Nat.exists_eq_add_of_le hbefore
      rw [List.length_append] at hcut
      obtain ⟨whole, hwhole, part, htake, hcount, hpart⟩ := ih (Nat.le_of_add_le_add_left hcut)
      refine ⟨whole + 1, Nat.succ_le_succ hwhole, part, ?_, ?_, ?_⟩
      · rw [List.take_length_add_append, htake, List.take_succ_cons, List.flatMap_cons,
          List.append_assoc]
      · intro count hle
        cases count with
        | zero => exact ⟨fun _ => Nat.zero_le _, fun _ => Nat.zero_le _⟩
        | succ count =>
          rw [List.take_succ_cons, List.flatMap_cons, List.length_append, Nat.add_le_add_iff_left,
            Nat.add_le_add_iff_right]
          exact hcount count (Nat.le_of_succ_le_succ hle)
      · refine hpart.imp_right ?_
        rintro ⟨cutRecord, hmem, hsize⟩
        exact ⟨cutRecord, List.mem_cons_of_mem _ hmem, hsize⟩
    · have hinside : cut < record.form.length := Nat.not_le.1 hbefore
      refine ⟨0, Nat.zero_le _, record.form.take cut, ?_, ?_, Or.inr ?_⟩
      · exact List.take_append_of_le_length (Nat.le_of_lt hinside)
      · intro count _
        cases count with
        | zero => exact ⟨fun _ => Nat.le_refl 0, fun _ => Nat.zero_le cut⟩
        | succ count =>
          rw [List.take_succ_cons, List.flatMap_cons, List.length_append]
          omega
      · exact ⟨record, List.mem_cons_self, cut, hinside, rfl⟩

/-- A part of a record that is missing something is refused as too short. -/
theorem halts_of_part {records : List Tlv} (hfits : ∀ record ∈ records, record.Fits) {part : Bytes}
    (hpart : part = [] ∨ ∃ record ∈ records, ∃ size < record.form.length,
      part = record.form.take size) :
    Halts part (if part = [] then none else some .invalidLength) := by
  by_cases hempty : part = []
  · rw [if_pos hempty, hempty]
    exact .finished
  · rw [if_neg hempty]
    refine .malformed hempty ?_
    obtain ⟨record, hrecord, size, hsize, rfl⟩ := hpart.resolve_left hempty
    exact read_take_form (hfits record hrecord) hsize

/-- A row that is cut off gives the records wholly before the cut, and one refusal for want of bytes
unless the cut falls between two records. -/
theorem exists_reports_of_cut {records : List Tlv} (hfits : ∀ record ∈ records, record.Fits)
    {cut : Nat} (hcut : cut ≤ (records.flatMap form).length) :
    ∃ whole ≤ records.length,
      (∀ count ≤ records.length,
        ((records.take count).flatMap form).length ≤ cut ↔ count ≤ whole) ∧
      Reports ((records.flatMap form).take cut) (records.take whole)
        (if ((records.take whole).flatMap form).length = cut then none
          else some .invalidLength) := by
  obtain ⟨whole, hwhole, part, htake, hcount, hpart⟩ := exists_take_flatMap_form records hcut
  refine ⟨whole, hwhole, hcount, ?_⟩
  have hboundary : ((records.take whole).flatMap form).length = cut ↔ part = [] := by
    have hlength := congrArg List.length htake
    rw [List.length_take, Nat.min_eq_left hcut, List.length_append] at hlength
    rw [← List.length_eq_zero_iff]
    omega
  have hhalts := halts_of_part hfits hpart
  simp only [htake, hboundary]
  exact reports_of_halts (fun record hrecord => hfits record (List.mem_of_mem_take hrecord)) hhalts

/-- A row of records is read back record by record, whole or cut off anywhere, and every byte string
is read as such a row and at most one refusal behind it. -/
theorem sequence_read_back :
    (∀ records : List Tlv, (∀ record ∈ records, record.Fits) →
      (∀ record ∈ records, encode record = .ok (format record.tag (.bytes record.value))) ∧
      Reports (records.flatMap fun record => format record.tag (.bytes record.value)) records
        none ∧
      ∀ cut ≤ (records.flatMap form).length, ∃ whole ≤ records.length,
        (∀ count ≤ records.length,
          ((records.take count).flatMap form).length ≤ cut ↔ count ≤ whole) ∧
        Reports ((records.flatMap form).take cut) (records.take whole)
          (if ((records.take whole).flatMap form).length = cut then none
            else some .invalidLength)) ∧
    ∀ bytes : Bytes, ∃ (records : List Tlv) (rest : Bytes) (fault : Option WireError),
      Reports bytes records fault ∧
        records.length + fault.toList.length ≤ bytes.length / 2 + 1 ∧
        bytes = records.flatMap form ++ rest ∧ (fault = none ↔ rest = []) ∧
        ∀ record ∈ records, record.Fits := by
  refine ⟨?_, ?_⟩
  · intro records hfits
    have hwhole := reports_of_halts hfits .finished
    rw [List.append_nil] at hwhole
    refine ⟨fun record _ => record.putsForm.encode_eq, hwhole, ?_⟩
    intro cut hcut
    exact exists_reports_of_cut hfits hcut
  · intro bytes
    obtain ⟨records, rest, fault, rfl, hfits, hhalts⟩ := exists_row bytes
    have hcount := (length_items_le records hhalts).1
    exact ⟨records, rest, fault, reports_of_halts hfits hhalts, hcount, rfl,
      hhalts.fault_eq_none_iff, hfits⟩

/-- Two records, of which the first has a long tag and the second a long length. -/
def sampleRow : List Tlv :=
  [⟨0x100, [0x07]⟩, ⟨0x20, List.replicate 128 0x61⟩]

/-- Cut off within the length of the second record, the sample gives the first one and a refusal at
the cut. -/
theorem sequence_read_back_cut :
    (∀ record ∈ sampleRow, record.Fits) ∧
      Reports ((sampleRow.flatMap form).take 7) (sampleRow.take 1) (some .invalidLength) := by
  have hfits : ∀ record ∈ sampleRow, record.Fits := by
    intro record hrecord
    have hshort : ∀ record ∈ sampleRow, record.value.length ≤ 128 := by decide +kernel
    exact Nat.lt_of_le_of_lt (hshort record hrecord) (by decide)
  refine ⟨hfits, ?_⟩
  obtain ⟨whole, -, hcount, hreports⟩ :=
    (sequence_read_back.1 sampleRow hfits).2.2 7 (by decide +kernel)
  have hfirst : 1 ≤ whole := (hcount 1 (by decide)).1 (by decide +kernel)
  have hsecond : ¬2 ≤ whole := fun hle => absurd ((hcount 2 (by decide)).2 hle) (by decide +kernel)
  obtain rfl : whole = 1 := by omega
  exact hreports

end Countersign.Tlv.Reader

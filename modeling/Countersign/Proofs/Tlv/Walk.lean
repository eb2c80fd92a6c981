/-
# Walking over records

Every byte string is a row of records and then bytes with which no record opens, perhaps none. A
walk reports the records of the row, each with the offset at which it ends, and after them the
refusal of what is left, if anything is. It reports nothing malformed exactly if the byte string is
a row of records.
-/

import Countersign.Proofs.Tlv.Canonical
import Countersign.Tlv.Reader

namespace Countersign.Tlv.Reader

/-- What a walk reports on records that stand one after the other, from an offset on. -/
def located : (offset : Nat) → List Tlv → List (Except WireError Tlv × Nat)
  | _, [] => []
  | offset, record :: records =>
    (.ok record, offset + record.form.length) :: located (offset + record.form.length) records

/-- What a walk reports in place of a record that it cannot read: the refusal, at the end of a byte
string of this length. -/
def refused (length : Nat) (fault : Option WireError) : List (Except WireError Tlv × Nat) :=
  fault.toList.map fun cause => (.error cause, length)

/-- No record opens the bytes: there are none, or they are refused. -/
inductive Halts : Bytes → Option WireError → Prop
  | finished : Halts [] none
  | malformed {rest : Bytes} {cause : WireError} (hsome : rest ≠ [])
      (hread : Tlv.read rest = .error cause) : Halts rest (some cause)

theorem Halts.fault_eq_none_iff {rest : Bytes} {fault : Option WireError}
    (hhalts : Halts rest fault) : fault = none ↔ rest = [] := by
  cases hhalts with
  | finished => exact ⟨fun _ => rfl, fun _ => rfl⟩
  | malformed hsome _ =>
    constructor
    · intro hnone
      cases hnone
    · intro hempty
      exact absurd hempty hsome

theorem length_located (offset : Nat) (records : List Tlv) :
    (located offset records).length = records.length := by
  induction records generalizing offset with
  | nil => rfl
  | cons record records ih => rw [located, List.length_cons, ih, List.length_cons]

theorem length_refused (length : Nat) (fault : Option WireError) :
    (refused length fault).length = fault.toList.length :=
  List.length_map _

/-- Each record is reported at the end of the row that it completes. -/
theorem getElem?_located (offset : Nat) {records : List Tlv} {i : Nat} (hi : i < records.length) :
    (located offset records)[i]? =
      some (.ok records[i], offset + ((records.take (i + 1)).flatMap form).length) := by
  induction records generalizing offset i with
  | nil => exact absurd hi (Nat.not_lt_zero i)
  | cons record records ih =>
    cases i with
    | zero => simp [located]
    | succ i =>
      rw [located, List.getElem?_cons_succ, ih _ (Nat.lt_of_succ_lt_succ hi),
        List.take_succ_cons, List.flatMap_cons, List.length_append, List.getElem_cons_succ,
        Nat.add_assoc]

theorem next_of_end {reader : Reader} (hend : reader.buffer.length ≤ reader.offset) :
    next reader = none := by
  rw [next, if_pos hend]

theorem next_of_read {front rest after : Bytes} {record : Tlv}
    (hread : Tlv.read rest = .ok (record, after)) :
    next ⟨front ++ rest, front.length⟩ =
      some (.ok record, ⟨(front ++ record.form) ++ after, (front ++ record.form).length⟩) := by
  obtain ⟨rfl, hfits⟩ := form_append_of_read hread
  have hform := List.length_pos_iff.2 record.form_ne_nil
  have hsome : ¬(front ++ (record.form ++ after)).length ≤ front.length := by
    simp only [List.length_append]
    omega
  have hoffset : (front ++ (record.form ++ after)).length - after.length =
      (front ++ record.form).length := by
    simp only [List.length_append]
    omega
  rw [next, if_neg hsome, List.drop_left]
  simp only [hread, hoffset, List.append_assoc]

theorem next_of_malformed (front : Bytes) {rest : Bytes} {cause : WireError} (hsome : rest ≠ [])
    (hread : Tlv.read rest = .error cause) :
    next ⟨front ++ rest, front.length⟩ =
      some (.error cause, ⟨front ++ rest, (front ++ rest).length⟩) := by
  have hpos := List.length_pos_iff.2 hsome
  have hsome' : ¬(front ++ rest).length ≤ front.length := by
    rw [List.length_append]
    omega
  rw [next, if_neg hsome', List.drop_left]
  simp only [hread]

/-- At the end, a walk reports nothing, however often it is asked, and stays where it is. -/
theorem itemsWithin_of_end {reader : Reader} (hend : reader.buffer.length ≤ reader.offset)
    (limit : Nat) : itemsWithin limit reader = ([], reader) := by
  cases limit with
  | zero => rfl
  | succ limit => rw [itemsWithin, next_of_end hend]

/-- The first so many steps of a walk report the first so many items: the records of the row, and
then the refusal of what stands behind it. After them the walk stands at the end. -/
theorem itemsWithin_of_halts {records : List Tlv} (hfits : ∀ record ∈ records, record.Fits)
    {rest : Bytes} {fault : Option WireError} (hhalts : Halts rest fault) (front : Bytes)
    (limit : Nat) :
    (itemsWithin limit ⟨front ++ (records.flatMap form ++ rest), front.length⟩).1 =
        (located front.length records ++
          refused (front ++ (records.flatMap form ++ rest)).length fault).take limit ∧
      (records.length + fault.toList.length ≤ limit →
        (itemsWithin limit ⟨front ++ (records.flatMap form ++ rest), front.length⟩).2 =
          ⟨front ++ (records.flatMap form ++ rest),
            (front ++ (records.flatMap form ++ rest)).length⟩) := by
  induction records generalizing front limit with
  | nil =>
    rw [List.flatMap_nil, List.nil_append, located, List.nil_append]
    cases hhalts with
    | finished =>
      have hend : (front ++ []).length ≤ front.length := Nat.le_of_eq (by rw [List.append_nil])
      rw [itemsWithin_of_end hend, List.append_nil]
      exact ⟨List.take_nil.symm, fun _ => rfl⟩
    | malformed hsome hread =>
      cases limit with
      | zero => exact ⟨rfl, fun hlimit => absurd hlimit (Nat.not_succ_le_zero 0)⟩
      | succ limit =>
        have hend := @itemsWithin_of_end ⟨front ++ rest, (front ++ rest).length⟩ (Nat.le_refl _)
        rw [itemsWithin, next_of_malformed front hsome hread]
        simp only [hend, implies_true, and_true]
        exact congrArg _ List.take_nil.symm
  | cons record records ih =>
    cases limit with
    | zero => exact ⟨rfl, fun hlimit => absurd hlimit (by simp)⟩
    | succ limit =>
      have hread := read_form_append (hfits record List.mem_cons_self)
        (records.flatMap form ++ rest)
      obtain ⟨hitems, hlast⟩ := ih (fun later hlater => hfits later (List.mem_cons_of_mem _ hlater))
        (front ++ record.form) limit
      have hbytes : front ++ ((record :: records).flatMap form ++ rest) =
          front ++ record.form ++ (records.flatMap form ++ rest) := by
        rw [List.flatMap_cons, List.append_assoc, List.append_assoc]
      rw [hbytes, List.append_assoc front, itemsWithin, next_of_read hread, located,
        List.cons_append, List.take_succ_cons, ← List.append_assoc front]
      rw [@List.length_append _ front record.form] at hitems hlast ⊢
      refine ⟨?_, ?_⟩
      · exact congrArg _ hitems
      · intro hlimit
        apply hlast
        rw [List.length_cons] at hlimit
        omega

theorem length_flatMap_form_concat (records : List Tlv) (record : Tlv) :
    ((records ++ [record]).flatMap form).length =
      (records.flatMap form).length + record.form.length := by
  rw [List.flatMap_append, List.length_append, List.flatMap_singleton]

/-- Every record takes at least two bytes. -/
theorem two_mul_length_le_flatMap_form (records : List Tlv) :
    2 * records.length ≤ (records.flatMap form).length := by
  induction records with
  | nil => exact Nat.le_refl 0
  | cons record records ih =>
    have hform := record.two_le_length_form
    rw [List.flatMap_cons, List.length_append, List.length_cons]
    omega

/-- There are at most half as many items as bytes, and one more. -/
theorem length_items_le (records : List Tlv) {rest : Bytes} {fault : Option WireError}
    (hhalts : Halts rest fault) :
    records.length + fault.toList.length ≤ (records.flatMap form ++ rest).length / 2 + 1 ∧
      records.length + fault.toList.length ≤ (records.flatMap form ++ rest).length := by
  have hrecords := two_mul_length_le_flatMap_form records
  rw [List.length_append]
  cases hhalts with
  | finished =>
    simp only [Option.toList_none, List.length_nil]
    omega
  | malformed hsome _ =>
    have hrest := List.length_pos_iff.2 hsome
    simp only [Option.toList_some, List.length_singleton]
    omega

/-- A walk over a row of records, and bytes with which none opens, reports exactly these. -/
theorem items_of_halts {records : List Tlv} (hfits : ∀ record ∈ records, record.Fits)
    {rest : Bytes} {fault : Option WireError} (hhalts : Halts rest fault) :
    items (records.flatMap form ++ rest) =
      (located 0 records ++ refused (records.flatMap form ++ rest).length fault,
        ⟨records.flatMap form ++ rest, (records.flatMap form ++ rest).length⟩) := by
  have hcount := (length_items_le records hhalts).2
  have hwalk := itemsWithin_of_halts hfits hhalts [] (records.flatMap form ++ rest).length
  have hall : (located 0 records ++ refused (records.flatMap form ++ rest).length fault).length ≤
      (records.flatMap form ++ rest).length := by
    rw [List.length_append, length_located, length_refused]
    exact hcount
  refine Prod.ext ?_ (hwalk.2 hcount)
  exact hwalk.1.trans (List.take_of_length_le hall)

/-- Every byte string is a row of records and bytes with which no record opens. -/
theorem exists_row (bytes : Bytes) :
    ∃ (records : List Tlv) (rest : Bytes) (fault : Option WireError),
      bytes = records.flatMap form ++ rest ∧ (∀ record ∈ records, record.Fits) ∧
        Halts rest fault := by
  induction hlength : bytes.length using Nat.strongRecOn generalizing bytes with
  | ind length ih =>
    by_cases hnone : bytes = []
    · subst hnone
      exact ⟨[], [], none, rfl, fun record hrecord => absurd hrecord List.not_mem_nil, .finished⟩
    · cases hread : Tlv.read bytes with
      | error cause =>
        exact ⟨[], bytes, some cause, rfl, fun record hrecord => absurd hrecord List.not_mem_nil,
          .malformed hnone hread⟩
      | ok found =>
        obtain ⟨record, after⟩ := found
        obtain ⟨rfl, hfits⟩ := form_append_of_read hread
        have hform := List.length_pos_iff.2 record.form_ne_nil
        rw [List.length_append] at hlength
        obtain ⟨records, rest, fault, rfl, hall, hhalts⟩ := ih after.length (by omega) after rfl
        refine ⟨record :: records, rest, fault, ?_, List.forall_mem_cons.2 ⟨hfits, hall⟩, hhalts⟩
        rw [List.flatMap_cons, List.append_assoc]

theorem items_of_records {records : List Tlv} (hfits : ∀ record ∈ records, record.Fits) :
    (items (records.flatMap form)).1 = located 0 records := by
  have hwalk := items_of_halts hfits .finished
  rw [List.append_nil] at hwalk
  rw [hwalk]
  exact List.append_nil _

theorem exists_records_of_items {bytes : Bytes}
    (hsound : ∀ item ∈ (items bytes).1, ∃ record, item.1 = .ok record) :
    ∃ records : List Tlv, bytes = records.flatMap form ∧ ∀ record ∈ records, record.Fits := by
  obtain ⟨records, rest, fault, rfl, hfits, hhalts⟩ := exists_row bytes
  rw [items_of_halts hfits hhalts] at hsound
  cases hhalts with
  | finished => exact ⟨records, List.append_nil _, hfits⟩
  | malformed _ _ =>
    obtain ⟨record, hrecord⟩ := hsound _ (List.mem_append_right _ List.mem_cons_self)
    cases hrecord

end Countersign.Tlv.Reader

/-
# The form of address checks

An address check is written for every configuration and path that fit behind one byte, with any
bytes for a signature between them. It is read back only where the signature says itself how long
it is, as a DER sequence in short form does: nothing else marks where the signature ends.
-/

import Countersign.AddressCheck
import Countersign.Proofs.Wire.Writing

namespace Countersign.AddressCheck

/-- The first byte of a DER sequence. -/
def sequenceTag : UInt8 := 0x30

/-- A DER sequence in short form: a tag, a length, and as many bytes. -/
def IsSequence (bytes : Bytes) : Prop :=
  ∃ body : Bytes, body.length ≤ maxPrefixed ∧ bytes = sequenceTag :: Field.prefixedForm body

/-- A sequence stands at the front of a byte string exactly if it is read there. -/
theorem readSequence_eq_ok_iff {bytes sequence rest : Bytes} :
    readSequence bytes = .ok (sequence, rest) ↔ IsSequence sequence ∧ bytes = sequence ++ rest := by
  constructor
  · intro hread
    match bytes, hread with
    | tag :: length :: body, hread =>
      obtain ⟨htag, hrun⟩ := refuse_else_eq_ok_iff.1 hread
      obtain ⟨hlength, hbytes⟩ := Field.run_eq_ok_iff.1 hrun
      match sequence, hlength, hbytes with
      | first :: second :: inner, hlength, hbytes =>
        simp only [List.cons_append, List.cons.injEq] at hbytes
        obtain ⟨rfl, rfl, rfl⟩ := hbytes
        have hinner : inner.length = length.toNat := by
          simp only [List.length_cons] at hlength
          omega
        refine ⟨⟨inner, ?_, ?_⟩, rfl⟩
        · rw [hinner]
          exact Nat.le_of_lt_succ length.toNat_lt
        · rw [Field.prefixedForm, hinner, UInt8.ofNat_toNat, Classical.not_not.1 htag, sequenceTag]
  · rintro ⟨⟨body, hshort, rfl⟩, rfl⟩
    rw [Field.prefixedForm, List.cons_append, List.cons_append, readSequence,
      Field.toNat_ofNat_length hshort]
    refine refuse_else_eq_ok_iff.2 ⟨Classical.not_not.2 rfl, ?_⟩
    exact Field.run_eq_ok_iff.2 ⟨rfl, rfl⟩

/-- What the fields of a check have to be for it to have a written form. The signature is free. -/
structure Writable (check : AddressCheck) : Prop where
  config : check.config.length ≤ maxPrefixed
  path : check.path.length ≤ maxPrefixed

/-- The written form of a check. -/
def form (check : AddressCheck) : Bytes :=
  Field.prefixedForm check.config ++ check.signature ++ Field.prefixedForm check.path

/-- A check is read exactly where its written form stands, if its signature is a sequence. -/
theorem read_eq_ok_iff {bytes rest : Bytes} {check : AddressCheck} :
    read bytes = .ok (check, rest) ↔
      check.Writable ∧ IsSequence check.signature ∧ bytes = check.form ++ rest := by
  have hform : check.form ++ rest = Field.prefixedForm check.config ++
      (check.signature ++ (Field.prefixedForm check.path ++ rest)) := by
    rw [form, List.append_assoc, List.append_assoc]
  simp only [read, bind_eq_ok_iff]
  constructor
  · rintro ⟨⟨config, body⟩, hconfig, ⟨signature, body⟩, hsignature, ⟨path, after⟩, hpath, hfound⟩
    obtain ⟨hshort, rfl⟩ := Field.prefixed_eq_ok_iff.1 hconfig
    obtain ⟨hsequence, rfl⟩ := readSequence_eq_ok_iff.1 hsignature
    obtain ⟨hshort', rfl⟩ := Field.prefixed_eq_ok_iff.1 hpath
    cases hfound
    exact ⟨⟨hshort, hshort'⟩, hsequence, hform.symm⟩
  · rintro ⟨hwritable, hsequence, rfl⟩
    exact ⟨_, Field.prefixed_eq_ok_iff.2 ⟨hwritable.config, hform⟩,
      _, readSequence_eq_ok_iff.2 ⟨hsequence, rfl⟩,
      _, Field.prefixed_eq_ok_iff.2 ⟨hwritable.path, rfl⟩, rfl⟩

/-- A check puts its written form, if it has one. -/
theorem putsForm {check : AddressCheck} (hwritable : check.Writable) :
    PutsForm check check.form where
  size := by
    have hconfig := prefixedLength_eq_ok_iff.2 ⟨hwritable.config, rfl⟩
    have hpath := prefixedLength_eq_ok_iff.2 ⟨hwritable.path, rfl⟩
    simp only [Encode.encodedLength, hconfig, hpath, bind, Except.bind, form, List.length_append,
      Field.length_prefixedForm]
  write buffer := by
    rw [form, ← Buffer.put_put, ← Buffer.put_put,
      ← Buffer.putPrefixed_of_length_le hwritable.config]
    simp only [Encode.write, ← Buffer.putPrefixed_of_length_le hwritable.path, bind, Except.bind]
    cases buffer.putPrefixed check.config <;> rfl

theorem writable_of_encodedLength {check : AddressCheck} {size : Nat}
    (hsize : Encode.encodedLength check = .ok size) : check.Writable := by
  obtain ⟨config, hconfig, hrest⟩ := bind_eq_ok_iff.1 hsize
  obtain ⟨path, hpath, -⟩ := bind_eq_ok_iff.1 hrest
  exact ⟨(prefixedLength_eq_ok_iff.1 hconfig).1, (prefixedLength_eq_ok_iff.1 hpath).1⟩

theorem writable_of_write {check : AddressCheck} {buffer written : Buffer}
    (hwrite : Encode.write check buffer = .ok written) : check.Writable := by
  obtain ⟨next, hconfig, hrest⟩ := bind_eq_ok_iff.1 hwrite
  obtain ⟨later, -, hpath⟩ := bind_eq_ok_iff.1 hrest
  exact ⟨(Buffer.putPrefixed_eq_ok_iff.1 hconfig).1, (Buffer.putPrefixed_eq_ok_iff.1 hpath).1⟩

/-- A check is encoded exactly if it has a written form. -/
theorem encode_eq_ok_iff {check : AddressCheck} {bytes : Bytes} :
    encode check = .ok bytes ↔ check.Writable ∧ bytes = check.form :=
  encode_eq_ok_iff_of_size (fun _ => writable_of_encodedLength)
    fun hwritable => (putsForm hwritable).encode_eq

/-- The fields of a check that stand behind their lengths, in the order in which they are put. -/
def prefixedFields (check : AddressCheck) : List Bytes :=
  [check.config, check.path]

/-- A check has a written form exactly if none of these fields is too long. -/
theorem writable_iff {check : AddressCheck} :
    check.Writable ↔
      check.prefixedFields.find? (fun field => maxPrefixed < field.length) = none := by
  rw [List.find?_eq_none]
  simp only [prefixedFields, List.mem_cons, List.not_mem_nil, or_false, forall_eq_or_imp,
    forall_eq, decide_eq_true_eq, Nat.not_lt]
  exact ⟨fun hwritable => ⟨hwritable.config, hwritable.path⟩, fun hshort => ⟨hshort.1, hshort.2⟩⟩

/-- A check is encoded as its form, or refused for the first of these fields that is too long. -/
theorem encode_eq (check : AddressCheck) :
    encode check = (fitPrefixes check.prefixedFields).map fun _ => check.form := by
  refine encode_eq_map_fitPrefixes ?_ fun hshort => putsForm ?_
  · simp only [Encode.encodedLength, prefixedLength_bind, prefixedFields, map_fitPrefixes_cons,
      form, List.length_append, Field.length_prefixedForm]
    rfl
  · simp only [prefixedFields, List.forall_mem_cons] at hshort
    exact ⟨hshort.1, hshort.2.1⟩

/-- The first field that is too long is the one that is refused. -/
theorem encode_of_long {check : AddressCheck} {field : Bytes}
    (hlong : check.prefixedFields.find? (fun field => maxPrefixed < field.length) = some field) :
    encode check = .error (.elementTooLong field.length) := by
  rw [encode_eq, map_fitPrefixes_eq_error_iff]
  exact ⟨field, hlong, rfl⟩

end Countersign.AddressCheck

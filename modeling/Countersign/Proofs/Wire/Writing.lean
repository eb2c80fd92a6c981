/-
# Writers one after the other

Writing one byte string after another is writing both at once, and it fails for want of room in the
same cases. So a writer that consists of others puts one byte string, the written form of its value,
and a value of which the announced size is that of its form is encoded as the form.

Which values have a form is a condition on their fields. Where it fails, neither the size nor the
bytes can be had, so announcing, writing and encoding always agree on the values that they refuse.
-/

import Countersign.Proofs.Wire.Field
import Countersign.Wire.Codec

namespace Countersign

/-- The size of a written form. -/
theorem Field.length_prefixedForm (element : Bytes) :
    (prefixedForm element).length = element.length + 1 :=
  List.length_cons

namespace Buffer

theorem put_put (first second : Bytes) (buffer : Buffer) :
    (buffer.put first >>= put second) = buffer.put (first ++ second) := by
  unfold put
  rw [List.length_append]
  by_cases hfirst : buffer.room.length < first.length
  · rw [if_pos hfirst, if_pos (Nat.lt_of_lt_of_le hfirst (Nat.le_add_right _ _))]
    rfl
  · rw [if_neg hfirst]
    have hroom : (buffer.room.drop first.length).length < second.length ↔
        buffer.room.length < first.length + second.length := by
      rw [List.length_drop]
      omega
    simp only [bind, Except.bind, hroom, List.append_assoc, List.drop_drop]

@[simp]
theorem put_nil (buffer : Buffer) : buffer.put [] = .ok buffer := by
  simp only [put, List.length_nil, Nat.not_lt_zero, if_false, List.append_nil, List.drop_zero]

/-- An element that is short enough is put behind its length. -/
theorem putPrefixed_of_length_le {element : Bytes} (hshort : element.length ≤ maxPrefixed)
    (buffer : Buffer) : buffer.putPrefixed element = buffer.put (Field.prefixedForm element) := by
  rw [putPrefixed, if_neg (Nat.not_lt.2 hshort), Field.prefixedForm]

theorem putPrefixed_eq_ok_iff {element : Bytes} {buffer next : Buffer} :
    buffer.putPrefixed element = .ok next ↔
      element.length ≤ maxPrefixed ∧ buffer.put (Field.prefixedForm element) = .ok next := by
  rw [putPrefixed, refuse_else_eq_ok_iff, Nat.not_lt, Field.prefixedForm]

theorem put_eq_ok_iff {bytes : Bytes} {buffer next : Buffer} :
    buffer.put bytes = .ok next ↔
      bytes.length ≤ buffer.room.length ∧
        next = ⟨buffer.written ++ bytes, buffer.room.drop bytes.length⟩ := by
  rw [put, refuse_else_eq_ok_iff, Nat.not_lt, Except.ok.injEq, @eq_comm Buffer next]

end Buffer

theorem prefixedLength_eq_ok_iff {element : Bytes} {size : Nat} :
    prefixedLength element = .ok size ↔
      element.length ≤ maxPrefixed ∧ element.length + 1 = size := by
  rw [prefixedLength, refuse_else_eq_ok_iff, Nat.not_lt, Except.ok.injEq]

/-- Refuses the first of these fields that does not fit behind one byte. -/
def fitPrefixes (fields : List Bytes) : Except WireError Unit :=
  match fields.find? fun field => maxPrefixed < field.length with
  | none => .ok ()
  | some field => .error (.elementTooLong field.length)

theorem fitPrefixes_eq_ok_iff {fields : List Bytes} :
    fitPrefixes fields = .ok () ↔ ∀ field ∈ fields, field.length ≤ maxPrefixed := by
  unfold fitPrefixes
  cases hlong : fields.find? fun field => maxPrefixed < field.length with
  | none => simpa using hlong
  | some field =>
    have hfield : maxPrefixed < field.length := by simpa using List.find?_some hlong
    have hmem := List.mem_of_find?_eq_some hlong
    refine iff_of_false (fun hfit => by cases hfit) fun hshort => ?_
    exact absurd (hshort field hmem) (Nat.not_le.2 hfield)

theorem map_fitPrefixes_cons {β : Type} (result : Unit → β) (field : Bytes) (rest : List Bytes) :
    (fitPrefixes (field :: rest)).map result =
      if maxPrefixed < field.length then .error (.elementTooLong field.length)
      else (fitPrefixes rest).map result := by
  unfold fitPrefixes
  by_cases hlong : maxPrefixed < field.length <;> simp [hlong, Except.map]

theorem map_fitPrefixes_eq_error_iff {β : Type} {result : Unit → β} {fields : List Bytes}
    {cause : WireError} :
    (fitPrefixes fields).map result = .error cause ↔
      ∃ field, fields.find? (fun field => maxPrefixed < field.length) = some field ∧
        cause = .elementTooLong field.length := by
  unfold fitPrefixes
  cases fields.find? fun field => maxPrefixed < field.length with
  | none => simp [Except.map]
  | some field => simp [Except.map, eq_comm]

theorem prefixedLength_bind {β : Type} (field : Bytes) (next : Nat → Except WireError β) :
    (prefixedLength field >>= next) =
      if maxPrefixed < field.length then .error (.elementTooLong field.length)
      else next (field.length + 1) := by
  unfold prefixedLength
  split <;> rfl

variable {α : Type} [Encode α]

/-- A value has this byte string as its form: it announces the size of the form and puts the form
into every buffer that has room for it. -/
structure PutsForm (value : α) (form : Bytes) : Prop where
  size : Encode.encodedLength value = .ok form.length
  write : ∀ buffer, Encode.write value buffer = buffer.put form

/-- A value is encoded as its form. -/
theorem PutsForm.encode_eq {value : α} {form : Bytes} (hputs : PutsForm value form) :
    encode value = .ok form := by
  have hroom : ¬(List.replicate form.length (0 : UInt8)).length < form.length := by
    rw [List.length_replicate]
    exact Nat.lt_irrefl _
  have hput : Encode.write value (Buffer.untouched (List.replicate form.length 0)) =
      .ok ⟨form, (List.replicate form.length 0).drop form.length⟩ := by
    rw [hputs.write, Buffer.put, Buffer.untouched, if_neg hroom, List.nil_append]
  simp only [encode, hputs.size, encodeInto, hput, Buffer.content, List.take_left]

/-- A value is written into a buffer exactly if there is room for its form, which then stands in
front of the bytes that were there. -/
theorem PutsForm.encodeInto_eq_ok_iff {value : α} {form target content : Bytes} {count : Nat}
    (hputs : PutsForm value form) :
    encodeInto value target = .ok (count, content) ↔
      form.length = count ∧ count ≤ target.length ∧ content = form ++ target.drop count := by
  rw [encodeInto, hputs.write, Buffer.put, Buffer.untouched, List.nil_append]
  by_cases hroom : target.length < form.length
  · rw [if_pos hroom]
    constructor
    · intro hinto
      cases hinto
    · rintro ⟨rfl, hroom', -⟩
      exact absurd hroom (Nat.not_lt.2 hroom')
  · rw [if_neg hroom]
    constructor
    · intro hinto
      cases hinto
      exact ⟨rfl, Nat.not_lt.1 hroom, rfl⟩
    · rintro ⟨rfl, -, rfl⟩
      rfl

/-- What is written into a buffer is written by its writer. -/
theorem exists_write_of_encodeInto {value : α} {target content : Bytes} {count : Nat}
    (hinto : encodeInto value target = .ok (count, content)) :
    ∃ buffer, Encode.write value (Buffer.untouched target) = .ok buffer := by
  unfold encodeInto at hinto
  split at hinto
  · next buffer hwrite => exact ⟨buffer, hwrite⟩
  · cases hinto

/-- What does not announce a size is not encoded. -/
theorem encode_of_encodedLength_eq_error {value : α} {cause : WireError}
    (hsize : Encode.encodedLength value = .error cause) : encode value = .error cause := by
  rw [encode, hsize]

/-- What is encoded has announced a size. -/
theorem exists_encodedLength_of_encode {value : α} {bytes : Bytes}
    (hencode : encode value = .ok bytes) : ∃ size, Encode.encodedLength value = .ok size := by
  cases hsize : Encode.encodedLength value with
  | error cause =>
    rw [encode_of_encodedLength_eq_error hsize] at hencode
    cases hencode
  | ok size => exact ⟨size, rfl⟩

/-- A value that announces the size of its form once its fields fit is encoded as this form, or
refused for the first field that does not fit. -/
theorem encode_eq_map_fitPrefixes {value : α} {form : Bytes} {fields : List Bytes}
    (hsize : Encode.encodedLength value = (fitPrefixes fields).map fun _ => form.length)
    (hform : (∀ field ∈ fields, field.length ≤ maxPrefixed) → PutsForm value form) :
    encode value = (fitPrefixes fields).map fun _ => form := by
  cases hfit : fitPrefixes fields with
  | error cause =>
    rw [hfit] at hsize
    exact encode_of_encodedLength_eq_error hsize
  | ok _ => exact (hform (fitPrefixes_eq_ok_iff.1 hfit)).encode_eq

/-- A value is encoded exactly under a condition that it needs to announce a size, if under this
condition it is encoded as its form. -/
theorem encode_eq_ok_iff_of_size {value : α} {form bytes : Bytes} {writable : Prop}
    (hsize : ∀ size, Encode.encodedLength value = .ok size → writable)
    (hform : writable → encode value = .ok form) :
    encode value = .ok bytes ↔ writable ∧ bytes = form := by
  refine ⟨fun hencode => ?_, fun hwritten => ?_⟩
  · obtain ⟨size, hannounced⟩ := exists_encodedLength_of_encode hencode
    have hwritable := hsize size hannounced
    rw [hform hwritable, Except.ok.injEq] at hencode
    exact ⟨hwritable, hencode.symm⟩
  · rw [hform hwritten.1, hwritten.2]

/-- A value that is encoded as its form, under a condition, has an encoding under this condition. -/
theorem exists_encode_iff {value : α} {form : Bytes} {writable : Prop}
    (hencode : ∀ {bytes}, encode value = .ok bytes ↔ writable ∧ bytes = form) :
    (∃ bytes, encode value = .ok bytes) ↔ writable :=
  ⟨fun ⟨_, hbytes⟩ => (hencode.1 hbytes).1, fun hwritable => ⟨form, hencode.2 ⟨hwritable, rfl⟩⟩⟩

end Countersign

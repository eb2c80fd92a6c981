/-
# Forms that say where they end

Most wire types are read exactly where the form of a value stands, and then the reader leaves what
stands behind the form. This is all that has to be known of a format to know how it decodes: each
value has one form, more bytes behind a form change nothing, and no form begins another one. The
first part of this module derives this once for every format.

The second part is about forms that break off. A reader that consists of others finds a form too
short wherever it breaks off, if each of them does so for its own part of the form.
-/

import Countersign.Proofs.Wire.Writing

namespace Countersign

variable {α β : Type}

/-! ### Decoding by forms -/

/-- Values are read exactly where the form of a readable value stands. -/
def ReadsForms [Decode α] (Readable : α → Prop) (form : α → Bytes) : Prop :=
  ∀ {bytes rest : Bytes} {value : α},
    Decode.read bytes = .ok (value, rest) ↔ Readable value ∧ bytes = form value ++ rest

/-- A wire type of which each value has one encoding, and each encoding says where it ends. -/
structure SelfDelimiting (α : Type) [Encode α] [Decode α] : Prop where
  /-- An encoding is read back, whatever follows it. -/
  decode_append : ∀ {value : α} {bytes : Bytes}, encode value = .ok bytes →
    ∀ rest, decode (bytes ++ rest) = .ok (value, bytes.length)
  /-- What is read as a value is the encoding of the value. -/
  encode_of_decode : ∀ {value : α} {bytes : Bytes} {count : Nat},
    decode bytes = .ok (value, count) → count ≤ bytes.length ∧ encode value = .ok (bytes.take count)
  /-- An encoding that breaks off is too short, wherever it breaks off. -/
  decode_take : ∀ {value : α} {bytes : Bytes}, encode value = .ok bytes →
    ∀ cut < bytes.length, (decode (bytes.take cut) : Except WireError (α × Nat)) =
      .error .invalidLength

namespace ReadsForms

variable [Decode α] {Readable : α → Prop} {form : α → Bytes}

/-- Decoding finds the value whose form stands in front, and counts the bytes of this form. -/
theorem decode_eq_ok_iff (hreads : ReadsForms Readable form) {bytes : Bytes} {value : α}
    {count : Nat} :
    decode bytes = .ok (value, count) ↔
      Readable value ∧ form value <+: bytes ∧ count = (form value).length := by
  have hcount (rest : Bytes) :
      (form value ++ rest).length - rest.length = (form value).length := by
    rw [List.length_append, Nat.add_sub_cancel]
  rw [decode_eq_ok_iff_read]
  constructor
  · rintro ⟨rest, hread, rfl⟩
    obtain ⟨hvalue, rfl⟩ := hreads.1 hread
    exact ⟨hvalue, List.prefix_append _ _, hcount rest⟩
  · rintro ⟨hvalue, ⟨rest, rfl⟩, rfl⟩
    exact ⟨rest, hreads.2 ⟨hvalue, rfl⟩, hcount rest⟩

theorem decode_form_append (hreads : ReadsForms Readable form) {value : α} (hvalue : Readable value)
    (rest : Bytes) : decode (form value ++ rest) = .ok (value, (form value).length) :=
  hreads.decode_eq_ok_iff.2 ⟨hvalue, List.prefix_append _ _, rfl⟩

/-- The bytes that decoding takes are the form of the value that it finds. -/
theorem decode_eq_ok_iff_take (hreads : ReadsForms Readable form) {bytes : Bytes} {value : α}
    {count : Nat} :
    decode bytes = .ok (value, count) ↔
      count ≤ bytes.length ∧ Readable value ∧ bytes.take count = form value := by
  rw [hreads.decode_eq_ok_iff]
  constructor
  · rintro ⟨hvalue, ⟨rest, rfl⟩, rfl⟩
    rw [List.length_append]
    exact ⟨Nat.le_add_right _ _, hvalue, List.take_left⟩
  · rintro ⟨hcount, hvalue, htake⟩
    rw [← htake, List.length_take, Nat.min_eq_left hcount]
    exact ⟨hvalue, List.take_prefix _ _, rfl⟩

/-- More bytes behind what was decoded change nothing. -/
theorem decode_append (hreads : ReadsForms Readable form) {bytes : Bytes} {value : α} {count : Nat}
    (hdecode : decode bytes = .ok (value, count)) (rest : Bytes) :
    decode (bytes ++ rest) = .ok (value, count) := by
  obtain ⟨hvalue, hfront, hcount⟩ := hreads.decode_eq_ok_iff.1 hdecode
  exact hreads.decode_eq_ok_iff.2 ⟨hvalue, hfront.trans (List.prefix_append _ _), hcount⟩

/-- What decodes as a whole begins with nothing shorter that decodes. -/
theorem decode_take_of_whole (hreads : ReadsForms Readable form) {bytes : Bytes} {value : α}
    (hwhole : decode bytes = .ok (value, bytes.length)) {cut : Nat} (hcut : cut < bytes.length) :
    ∃ cause, (decode (bytes.take cut) : Except WireError (α × Nat)) = .error cause := by
  cases hpart : (decode (bytes.take cut) : Except WireError (α × Nat)) with
  | error cause => exact ⟨cause, rfl⟩
  | ok found =>
    -- What is found before the cut would be found in all of the bytes as well.
    obtain ⟨hcount, -, -⟩ := hreads.decode_eq_ok_iff_take.1 hpart
    have hsame := hreads.decode_append hpart (bytes.drop cut)
    rw [List.take_append_drop, hwhole, Except.ok.injEq] at hsame
    rw [← congrArg Prod.snd hsame, List.length_take] at hcount
    omega

/-- Nothing has to mark where a form ends. -/
theorem append_inj (hreads : ReadsForms Readable form) {first second : α} {rest after : Bytes}
    (hfirst : Readable first) (hsecond : Readable second)
    (hsame : form first ++ rest = form second ++ after) : first = second ∧ rest = after := by
  have hread := (hreads.2 ⟨hfirst, rfl⟩).symm.trans (hreads.2 ⟨hsecond, hsame⟩)
  rw [Except.ok.injEq, Prod.mk.injEq] at hread
  exact hread

/-- A row of forms is the row of only one list of values. -/
theorem eq_of_flatMap_eq (hreads : ReadsForms Readable form) (hsome : ∀ value, form value ≠ [])
    {first second : List α} (hfirst : ∀ value ∈ first, Readable value)
    (hsecond : ∀ value ∈ second, Readable value)
    (hsame : first.flatMap form = second.flatMap form) : first = second := by
  -- The values in front are the same, and so is what stands behind their forms. No list is the
  -- beginning of a longer one, since every form has a byte.
  induction first generalizing second with
  | nil =>
    cases second with
    | nil => rfl
    | cons value second =>
      exact absurd (List.append_eq_nil_iff.1 hsame.symm).1 (hsome value)
  | cons value first ih =>
    cases second with
    | nil => exact absurd (List.append_eq_nil_iff.1 hsame).1 (hsome value)
    | cons other second =>
      obtain ⟨hvalue, hlater⟩ := List.forall_mem_cons.1 hfirst
      obtain ⟨hother, hlater'⟩ := List.forall_mem_cons.1 hsecond
      obtain ⟨hhead, hrest⟩ := hreads.append_inj hvalue hother hsame
      rw [hhead, ih hlater hlater' hrest]

end ReadsForms

/-! ### Forms that break off -/

/-- The reader finds this form too short wherever it breaks off. -/
def FindsShort (read : Bytes → Except WireError β) (form : Bytes) : Prop :=
  ∀ cut < form.length, read (form.take cut) = .error .invalidLength

/-- What comes after a reader does not see a form that the reader finds too short. -/
theorem FindsShort.bind {read : Bytes → Except WireError α} {next : α → Except WireError β}
    {form : Bytes} (hshort : FindsShort read form) :
    FindsShort (fun bytes => read bytes >>= next) form := by
  intro cut hcut
  simp only [hshort cut hcut, Bind.bind, Except.bind]

/-- Two forms one after the other break off in the first or in the second one. -/
theorem FindsShort.append {read : Bytes → Except WireError (α × Bytes)}
    {next : α × Bytes → Except WireError β} {value : α} {first second : Bytes}
    (hfirst : FindsShort read first) (hread : ∀ rest, read (first ++ rest) = .ok (value, rest))
    (hsecond : FindsShort (fun bytes => next (value, bytes)) second) :
    FindsShort (fun bytes => read bytes >>= next) (first ++ second) := by
  intro cut hcut
  by_cases hbefore : cut < first.length
  · rw [List.take_append_of_le_length (Nat.le_of_lt hbefore)]
    exact hfirst.bind cut hbefore
  · -- The first form is whole, and the second one breaks off where the rest of the cut is.
    obtain ⟨later, rfl⟩ := Nat.exists_eq_add_of_le (Nat.not_lt.1 hbefore)
    rw [List.length_append] at hcut
    rw [List.take_length_add_append]
    simp only [hread, Bind.bind, Except.bind]
    exact hsecond later (Nat.lt_of_add_lt_add_left hcut)

namespace Field

theorem findsShort_byte (first : UInt8) : FindsShort byte [first] := by
  intro cut hcut
  rw [Nat.lt_one_iff.1 hcut]
  rfl

theorem findsShort_run {count : Nat} {taken : Bytes} (hcount : taken.length = count) :
    FindsShort (run count) taken := by
  intro cut hcut
  refine if_pos ?_
  rw [List.length_take]
  omega

theorem findsShort_prefixed {element : Bytes} (hshort : element.length ≤ maxPrefixed) :
    FindsShort prefixed (prefixedForm element) := by
  intro cut hcut
  cases cut with
  | zero => rfl
  | succ cut =>
    rw [length_prefixedForm] at hcut
    rw [prefixedForm, List.take_succ_cons, prefixed, toNat_ofNat_length hshort]
    exact findsShort_run rfl cut (Nat.lt_of_succ_lt_succ hcut)

theorem findsShort_prefixedText {element : Bytes} (hshort : element.length ≤ maxPrefixed) :
    FindsShort prefixedText (prefixedForm element) := by
  intro cut hcut
  simp only [prefixedText, findsShort_prefixed hshort cut hcut]

end Field

/-- A format that is read where its forms stand and finds them too short where they break off is
self-delimiting, if it encodes its values as these forms. -/
theorem ReadsForms.selfDelimiting [Encode α] [Decode α] {Writable : α → Prop} {form : α → Bytes}
    (hreads : ReadsForms Writable form)
    (hencode : ∀ {value : α} {bytes : Bytes},
      encode value = .ok bytes ↔ Writable value ∧ bytes = form value)
    (hshort : ∀ {value : α}, Writable value → FindsShort (Decode.read (α := α)) (form value)) :
    SelfDelimiting α where
  decode_append hbytes rest := by
    obtain ⟨hvalue, rfl⟩ := hencode.1 hbytes
    exact hreads.decode_form_append hvalue rest
  encode_of_decode hdecode := by
    obtain ⟨hcount, hwritten⟩ := hreads.decode_eq_ok_iff_take.1 hdecode
    exact ⟨hcount, hencode.2 hwritten⟩
  decode_take hbytes cut hcut := by
    obtain ⟨hvalue, rfl⟩ := hencode.1 hbytes
    exact decode_of_read_error (hshort hvalue cut hcut)

end Countersign

/-
# What the field readers accept

Every field reader succeeds exactly if the byte string starts with the written form of the field,
and then it leaves what stands behind that form. So a layout that is read field by field can be
talked about as the bytes that it consists of.
-/

import Countersign.Proofs.Wire.Reading
import Countersign.Wire.Field

namespace Countersign

namespace Bytes

/-- A byte string is the UTF-8 form of at most one text, and reading finds this one. -/
theorem toText?_eq_some_iff {bytes : Bytes} {text : String} :
    toText? bytes = some text ↔ ofText text = bytes := by
  unfold toText? ofText String.fromUTF8?
  constructor
  · intro hread
    split at hread
    · cases hread
      rfl
    · cases hread
  · rintro rfl
    exact dif_pos text.isValidUTF8

@[simp]
theorem toText?_ofText (text : String) : toText? (ofText text) = some text :=
  toText?_eq_some_iff.2 rfl

/-- A text begins with a byte that can begin a letter. -/
theorem isUTF8FirstByte_of_ofText_eq_cons {text : String} {first : UInt8} {rest : Bytes}
    (htext : ofText text = first :: rest) : first.IsUTF8FirstByte := by
  have hsize : 0 < text.toUTF8.size := by
    rw [ByteArray.size, ← Array.length_toList]
    exact List.length_pos_iff.2 fun hnil => List.cons_ne_nil _ _ (htext.symm.trans hnil)
  have hhead : text.toUTF8[0] = first := List.getElem_of_eq htext hsize
  rw [← hhead]
  exact text.isValidUTF8.isUTF8FirstByte_getElem_zero hsize

end Bytes

namespace Field

theorem byte_eq_ok_iff {bytes rest : Bytes} {first : UInt8} :
    byte bytes = .ok (first, rest) ↔ bytes = first :: rest := by
  cases bytes with
  | nil =>
    constructor <;> intro hread <;> cases hread
  | cons head tail => rw [byte, Except.ok.injEq, Prod.mk.injEq, List.cons.injEq]

theorem run_eq_ok_iff {count : Nat} {bytes taken rest : Bytes} :
    run count bytes = .ok (taken, rest) ↔ taken.length = count ∧ bytes = taken ++ rest := by
  unfold run
  split
  · next hshort =>
    constructor
    · intro hread
      cases hread
    · rintro ⟨hlength, rfl⟩
      rw [List.length_append] at hshort
      omega
  · next hroom =>
    rw [Except.ok.injEq, Prod.mk.injEq]
    constructor
    · rintro ⟨rfl, rfl⟩
      refine ⟨?_, (List.take_append_drop count bytes).symm⟩
      rw [List.length_take]
      omega
    · rintro ⟨rfl, rfl⟩
      exact ⟨List.take_left, List.drop_left⟩

/-- The written form of an element behind a one-byte length. -/
def prefixedForm (element : Bytes) : Bytes :=
  UInt8.ofNat element.length :: element

theorem prefixedForm_of_length {element : Bytes} {length : Nat}
    (hlength : element.length = length) :
    prefixedForm element = UInt8.ofNat length :: element := by
  rw [prefixedForm, hlength]

theorem toNat_ofNat_length {element : Bytes} (hshort : element.length ≤ maxPrefixed) :
    (UInt8.ofNat element.length).toNat = element.length := by
  rw [UInt8.toNat_ofNat']
  exact Nat.mod_eq_of_lt (Nat.lt_succ_of_le hshort)

theorem prefixed_eq_ok_iff {bytes element rest : Bytes} :
    prefixed bytes = .ok (element, rest) ↔
      element.length ≤ maxPrefixed ∧ bytes = prefixedForm element ++ rest := by
  cases bytes with
  | nil =>
    constructor
    · intro hread
      cases hread
    · rintro ⟨-, hbytes⟩
      cases hbytes
  | cons length body =>
    rw [prefixed, run_eq_ok_iff, prefixedForm, List.cons_append, List.cons.injEq]
    constructor
    · rintro ⟨hlength, rfl⟩
      refine ⟨?_, ?_, rfl⟩
      · rw [hlength]
        exact Nat.le_of_lt_succ length.toNat_lt
      · rw [hlength, UInt8.ofNat_toNat]
    · rintro ⟨hshort, rfl, rfl⟩
      exact ⟨(toNat_ofNat_length hshort).symm, rfl⟩

/-- The byte in front of an element says how long it is. -/
theorem length_of_prefixedForm_eq {element rest after : Bytes} {first : UInt8}
    (hshort : element.length ≤ maxPrefixed)
    (hfirst : prefixedForm element ++ rest = first :: after) :
    element.length = first.toNat ∧ element ++ rest = after := by
  rw [prefixedForm, List.cons_append, List.cons.injEq] at hfirst
  rw [← hfirst.1, toNat_ofNat_length hshort]
  exact ⟨rfl, hfirst.2⟩

/-- Nothing has to mark where an element ends: its length says it. -/
theorem prefixedForm_append_inj {first second rest after : Bytes}
    (hfirst : first.length ≤ maxPrefixed) (hsecond : second.length ≤ maxPrefixed)
    (hsame : prefixedForm first ++ rest = prefixedForm second ++ after) :
    first = second ∧ rest = after := by
  have hread := (prefixed_eq_ok_iff.2 ⟨hfirst, rfl⟩).symm.trans
    (prefixed_eq_ok_iff.2 ⟨hsecond, hsame⟩)
  rw [Except.ok.injEq, Prod.mk.injEq] at hread
  exact hread

theorem prefixedText_eq_ok_iff {bytes rest : Bytes} {text : String} :
    prefixedText bytes = .ok (text, rest) ↔
      (Bytes.ofText text).length ≤ maxPrefixed ∧
        bytes = prefixedForm (Bytes.ofText text) ++ rest := by
  rw [← prefixed_eq_ok_iff]
  unfold prefixedText
  constructor
  · intro hread
    split at hread
    · cases hread
    · next element after hprefixed =>
      split at hread
      · cases hread
      · next found htext =>
        cases hread
        rw [Bytes.toText?_eq_some_iff.1 htext]
        exact hprefixed
  · intro hprefixed
    simp only [hprefixed, Bytes.toText?_ofText]

/-- An element behind its length is read as text, or refused for not being text. -/
theorem prefixedText_prefixedForm_append {element : Bytes} (rest : Bytes)
    (hshort : element.length ≤ maxPrefixed) :
    prefixedText (prefixedForm element ++ rest) =
      (Bytes.toText? element).elim (.error .invalidUtf8) fun text => .ok (text, rest) := by
  have hprefixed := prefixed_eq_ok_iff.2 ⟨hshort, Eq.refl (prefixedForm element ++ rest)⟩
  simp only [prefixedText, hprefixed]
  cases Bytes.toText? element <;> rfl

end Field

end Countersign

/-
# Readers one after the other

A reader that consists of others succeeds exactly if each of them does on what the one before it
has left.
-/

import Countersign.Wire.Codec

namespace Countersign

variable {ε α β : Type}

theorem map_eq_ok_iff {found : Except ε α} {f : α → β} {result : β} :
    found.map f = .ok result ↔ ∃ value, found = .ok value ∧ f value = result := by
  cases found with
  | error cause =>
    constructor
    · intro hmap
      cases hmap
    · rintro ⟨value, hfound, -⟩
      cases hfound
  | ok value =>
    rw [Except.map, Except.ok.injEq]
    constructor
    · intro hmap
      exact ⟨value, rfl, hmap⟩
    · rintro ⟨other, hfound, hmap⟩
      cases hfound
      exact hmap

theorem bind_eq_ok_iff {found : Except ε α} {next : α → Except ε β} {result : β} :
    (found >>= next) = .ok result ↔ ∃ value, found = .ok value ∧ next value = .ok result := by
  cases found with
  | error cause =>
    constructor
    · intro hbind
      cases hbind
    · rintro ⟨value, hfound, -⟩
      cases hfound
  | ok value =>
    constructor
    · intro hbind
      exact ⟨value, rfl, hbind⟩
    · rintro ⟨other, hfound, hnext⟩
      cases hfound
      exact hnext

theorem mapError_eq_ok_iff {ε' : Type} {found : Except ε α} {f : ε → ε'} {value : α} :
    found.mapError f = .ok value ↔ found = .ok value := by
  cases found with
  | error cause =>
    constructor <;> intro hfound <;> cases hfound
  | ok other =>
    constructor <;> intro hfound <;> cases hfound <;> rfl

theorem toOption_eq_some_iff {found : Except ε α} {value : α} :
    found.toOption = some value ↔ found = .ok value := by
  cases found with
  | error cause =>
    constructor <;> intro hfound <;> cases hfound
  | ok other => rw [Except.toOption, Option.some.injEq, Except.ok.injEq]

/-- What is refused under a condition succeeds only without it. -/
theorem refuse_else_eq_ok_iff {condition : Prop} [Decidable condition] {cause : ε}
    {rest : Except ε α} {value : α} :
    (if condition then .error cause else rest) = .ok value ↔
      ¬condition ∧ rest = .ok value := by
  by_cases hcondition : condition
  · simp only [hcondition, if_true, not_true, false_and, reduceCtorEq]
  · simp only [hcondition, if_false, not_false_eq_true, true_and]

/-- A value takes up a byte string exactly if reading it leaves nothing. -/
theorem decodeWhole?_eq_some_iff [Decode α] {bytes : Bytes} {value : α} :
    decodeWhole? bytes = some value ↔ Decode.read bytes = .ok (value, []) := by
  unfold decodeWhole?
  split
  · next found hread => simp [hread]
  · next hother =>
    constructor
    · intro hnone
      cases hnone
    · intro hread
      exact absurd hread (hother value)

/-- What is decoded is what is read, and the count is of the bytes that the reading takes away. -/
theorem decode_eq_ok_iff_read [Decode α] {bytes : Bytes} {value : α} {count : Nat} :
    decode bytes = .ok (value, count) ↔
      ∃ rest, Decode.read bytes = .ok (value, rest) ∧ bytes.length - rest.length = count := by
  unfold decode
  cases (Decode.read bytes : Except WireError (α × Bytes)) with
  | error cause => simp
  | ok found => simp [Prod.ext_iff, and_assoc]

theorem decode_of_read_error [Decode α] {bytes : Bytes} {cause : WireError}
    (hread : (Decode.read bytes : Except WireError (α × Bytes)) = .error cause) :
    (decode bytes : Except WireError (α × Nat)) = .error cause := by
  rw [decode, hread]

end Countersign

/-
# The form of currency configurations

A currency configuration is three elements behind their lengths, so it has no byte of its own by
which it could be told from other byte strings.
-/

import Countersign.Currency
import Countersign.Proofs.Wire.Writing

namespace Countersign.CurrencyConfig

/-- What the fields of a configuration have to be for it to have a written form. -/
structure Writable (config : CurrencyConfig) : Prop where
  ticker : (Bytes.ofText config.ticker).length ≤ maxPrefixed
  application : (Bytes.ofText config.application).length ≤ maxPrefixed
  subConfig : config.subConfig.length ≤ maxPrefixed

/-- The written form of a configuration. -/
def form (config : CurrencyConfig) : Bytes :=
  Field.prefixedForm (Bytes.ofText config.ticker) ++
    (Field.prefixedForm (Bytes.ofText config.application) ++ Field.prefixedForm config.subConfig)

theorem read_eq_ok_iff {bytes rest : Bytes} {config : CurrencyConfig} :
    read bytes = .ok (config, rest) ↔ config.Writable ∧ bytes = config.form ++ rest := by
  have hform : config.form ++ rest = Field.prefixedForm (Bytes.ofText config.ticker) ++
      (Field.prefixedForm (Bytes.ofText config.application) ++
        (Field.prefixedForm config.subConfig ++ rest)) := by
    rw [form, List.append_assoc, List.append_assoc]
  simp only [read, bind_eq_ok_iff]
  constructor
  · rintro ⟨⟨ticker, body⟩, hticker, ⟨application, body⟩, happlication, ⟨subConfig, after⟩,
      hsubConfig, hfound⟩
    obtain ⟨hshort, rfl⟩ := Field.prefixedText_eq_ok_iff.1 hticker
    obtain ⟨hshort', rfl⟩ := Field.prefixedText_eq_ok_iff.1 happlication
    obtain ⟨hshort'', rfl⟩ := Field.prefixed_eq_ok_iff.1 hsubConfig
    cases hfound
    exact ⟨⟨hshort, hshort', hshort''⟩, hform.symm⟩
  · rintro ⟨hwritable, rfl⟩
    exact ⟨_, Field.prefixedText_eq_ok_iff.2 ⟨hwritable.ticker, hform⟩,
      _, Field.prefixedText_eq_ok_iff.2 ⟨hwritable.application, rfl⟩,
      _, Field.prefixed_eq_ok_iff.2 ⟨hwritable.subConfig, rfl⟩, rfl⟩

/-- A strict reading finds the configuration whose form the bytes are, if there is one. -/
theorem parse_eq_ok_iff_form {bytes : Bytes} {config : CurrencyConfig} :
    parse bytes = .ok config ↔ config.Writable ∧ bytes = config.form := by
  have hform : bytes = config.form ↔ bytes = config.form ++ [] := by rw [List.append_nil]
  rw [hform, ← read_eq_ok_iff, parse, bind_eq_ok_iff]
  constructor
  · rintro ⟨⟨found, rest⟩, hread, hend⟩
    cases rest with
    | nil =>
      cases hend
      exact hread
    | cons first rest => cases hend
  · intro hread
    exact ⟨_, hread, rfl⟩

/-- A configuration puts its written form, if it has one. -/
theorem putsForm {config : CurrencyConfig} (hwritable : config.Writable) :
    PutsForm config config.form where
  size := by
    have hticker := prefixedLength_eq_ok_iff.2 ⟨hwritable.ticker, rfl⟩
    have happlication := prefixedLength_eq_ok_iff.2 ⟨hwritable.application, rfl⟩
    have hsubConfig := prefixedLength_eq_ok_iff.2 ⟨hwritable.subConfig, rfl⟩
    simp only [Encode.encodedLength, hticker, happlication, hsubConfig, bind, Except.bind, form,
      List.length_append, Field.length_prefixedForm, Nat.add_assoc]
  write buffer := by
    rw [form, ← List.append_assoc, ← Buffer.put_put, ← Buffer.put_put,
      ← Buffer.putPrefixed_of_length_le hwritable.ticker]
    simp only [Encode.write, ← Buffer.putPrefixed_of_length_le hwritable.application,
      ← Buffer.putPrefixed_of_length_le hwritable.subConfig, bind, Except.bind]
    cases buffer.putPrefixed (Bytes.ofText config.ticker) <;> rfl

theorem writable_of_encodedLength {config : CurrencyConfig} {size : Nat}
    (hsize : Encode.encodedLength config = .ok size) : config.Writable := by
  obtain ⟨ticker, hticker, hrest⟩ := bind_eq_ok_iff.1 hsize
  obtain ⟨application, happlication, hrest⟩ := bind_eq_ok_iff.1 hrest
  obtain ⟨subConfig, hsubConfig, -⟩ := bind_eq_ok_iff.1 hrest
  exact ⟨(prefixedLength_eq_ok_iff.1 hticker).1, (prefixedLength_eq_ok_iff.1 happlication).1,
    (prefixedLength_eq_ok_iff.1 hsubConfig).1⟩

/-- The fields of a configuration, in the order in which they are put. -/
def prefixedFields (config : CurrencyConfig) : List Bytes :=
  [Bytes.ofText config.ticker, Bytes.ofText config.application, config.subConfig]

/-- A configuration is encoded as its form, or refused for the first of its fields that does not
fit behind one byte. -/
theorem encode_eq (config : CurrencyConfig) :
    encode config = (fitPrefixes config.prefixedFields).map fun _ => config.form := by
  refine encode_eq_map_fitPrefixes ?_ fun hshort => putsForm ?_
  · simp only [Encode.encodedLength, prefixedLength_bind, prefixedFields, map_fitPrefixes_cons,
      form, List.length_append, Field.length_prefixedForm, Nat.add_assoc]
    rfl
  · simp only [prefixedFields, List.forall_mem_cons] at hshort
    exact ⟨hshort.1, hshort.2.1, hshort.2.2.1⟩

theorem writable_of_write {config : CurrencyConfig} {buffer written : Buffer}
    (hwrite : Encode.write config buffer = .ok written) : config.Writable := by
  obtain ⟨next, hticker, hrest⟩ := bind_eq_ok_iff.1 hwrite
  obtain ⟨later, happlication, hsubConfig⟩ := bind_eq_ok_iff.1 hrest
  exact ⟨(Buffer.putPrefixed_eq_ok_iff.1 hticker).1,
    (Buffer.putPrefixed_eq_ok_iff.1 happlication).1,
    (Buffer.putPrefixed_eq_ok_iff.1 hsubConfig).1⟩

end Countersign.CurrencyConfig

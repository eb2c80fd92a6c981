/-
# The image of the currency encoder

The form of a currency configuration says itself where it ends, although it has no byte of its own:
its length is known from the three length bytes in it. A strict reading therefore accepts the
encodings and nothing else. It tells apart how a byte string misses one: an encoding that breaks off
is too short, and bytes behind an encoding make it invalid.
-/

import Countersign.Proofs.Currency.Form
import Countersign.Proofs.Wire.SelfDelimiting

namespace Countersign.CurrencyConfig

theorem readsForms : ReadsForms Writable form :=
  read_eq_ok_iff

/-- The form breaks off in the ticker, in the name of the application, or in the rest. -/
theorem findsShort_read {config : CurrencyConfig} (hwritable : config.Writable) :
    FindsShort read config.form := by
  refine (Field.findsShort_prefixedText hwritable.ticker).append
    (fun rest => Field.prefixedText_eq_ok_iff.2 ⟨hwritable.ticker, rfl⟩) ?_
  refine (Field.findsShort_prefixedText hwritable.application).append
    (fun rest => Field.prefixedText_eq_ok_iff.2 ⟨hwritable.application, rfl⟩) ?_
  exact (Field.findsShort_prefixed hwritable.subConfig).bind

/-- A configuration is encoded exactly if it has a written form. -/
theorem encode_eq_ok_iff {config : CurrencyConfig} {bytes : Bytes} :
    encode config = .ok bytes ↔ config.Writable ∧ bytes = config.form :=
  encode_eq_ok_iff_of_size (fun _ => writable_of_encodedLength)
    fun hwritable => (putsForm hwritable).encode_eq

theorem selfDelimiting : SelfDelimiting CurrencyConfig :=
  readsForms.selfDelimiting encode_eq_ok_iff findsShort_read

/-- A configuration is refused for the first of its fields that does not fit behind one byte. -/
theorem encode_eq_error_iff {config : CurrencyConfig} {cause : WireError} :
    encode config = .error cause ↔
      ∃ field, config.prefixedFields.find? (fun field => maxPrefixed < field.length) = some field ∧
        cause = .elementTooLong field.length := by
  rw [encode_eq, map_fitPrefixes_eq_error_iff]

/-! ### Strict readings -/

/-- Bytes are read strictly as what they are the encoding of. -/
theorem parse_eq_ok_iff_encode {bytes : Bytes} {config : CurrencyConfig} :
    parse bytes = .ok config ↔ encode config = .ok bytes := by
  rw [parse_eq_ok_iff_form, encode_eq_ok_iff]

/-- Nothing may stand behind a configuration. -/
theorem parse_form_append {config : CurrencyConfig} (hwritable : config.Writable) {rest : Bytes}
    (hrest : rest ≠ []) : parse (config.form ++ rest) = .error .invalidEncoding := by
  have hread : read (config.form ++ rest) = .ok (config, rest) :=
    read_eq_ok_iff.2 ⟨hwritable, rfl⟩
  have hnotEmpty : ¬rest.isEmpty := fun hempty => hrest (List.isEmpty_iff.1 hempty)
  simp only [parse, hread, Bind.bind, Except.bind, if_neg hnotEmpty]

/-- A strict reading finds a form too short wherever it breaks off. -/
theorem findsShort_parse {config : CurrencyConfig} (hwritable : config.Writable) :
    FindsShort parse config.form :=
  (findsShort_read hwritable).bind

/-- A configuration is encoded exactly if each of its fields fits behind one byte, and refused for
the first one that does not. It has one encoding, which says where it ends. A strict reading accepts
the encodings and nothing else: bytes behind an encoding are invalid, and an encoding that breaks
off is too short. -/
theorem image_parsed_exactly :
    (∀ config : CurrencyConfig, (∃ bytes, encode config = .ok bytes) ↔
        (Bytes.ofText config.ticker).length ≤ maxPrefixed ∧
          (Bytes.ofText config.application).length ≤ maxPrefixed ∧
            config.subConfig.length ≤ maxPrefixed) ∧
      (∀ (config : CurrencyConfig) (cause : WireError), encode config = .error cause ↔
        ∃ field,
          config.prefixedFields.find? (fun field => maxPrefixed < field.length) = some field ∧
            cause = .elementTooLong field.length) ∧
      SelfDelimiting CurrencyConfig ∧
      (∀ (bytes : Bytes) (config : CurrencyConfig),
        parse bytes = .ok config ↔ encode config = .ok bytes) ∧
      ∀ (config : CurrencyConfig) (bytes : Bytes), encode config = .ok bytes →
        (∀ rest ≠ [], parse (bytes ++ rest) = .error .invalidEncoding) ∧
          ∀ cut < bytes.length, parse (bytes.take cut) = .error .invalidLength := by
  refine ⟨fun config => ?_, fun _ _ => encode_eq_error_iff, selfDelimiting,
    fun _ _ => parse_eq_ok_iff_encode, ?_⟩
  · rw [exists_encode_iff encode_eq_ok_iff]
    exact ⟨fun hwritable => ⟨hwritable.ticker, hwritable.application, hwritable.subConfig⟩,
      fun hfits => ⟨hfits.1, hfits.2.1, hfits.2.2⟩⟩
  · intro config bytes hencode
    obtain ⟨hwritable, rfl⟩ := encode_eq_ok_iff.1 hencode
    exact ⟨fun rest hrest => parse_form_append hwritable hrest, findsShort_parse hwritable⟩

/-- A configuration of an application that needs to know the decimals. -/
def sampleEthereum : CurrencyConfig :=
  ⟨"ETH", "Ethereum", [0x03, 0x45, 0x54, 0x48, 0x12]⟩

/-- The sample is read back strictly, but neither with a byte more nor with a byte less. With an
application and a ticker that are too long, it is refused for the ticker. -/
theorem image_parsed_exactly_ethereum :
    ∃ bytes, encode sampleEthereum = .ok bytes ∧ parse bytes = .ok sampleEthereum ∧
      parse (bytes ++ [0x00]) = .error .invalidEncoding ∧
      parse (bytes.take 18) = .error .invalidLength ∧
      encode { sampleEthereum with
          ticker := String.ofList (List.replicate 256 (Char.ofNat 0x45)),
          application := String.ofList (List.replicate 257 (Char.ofNat 0x45)) } =
        .error (.elementTooLong 256) := by
  obtain ⟨hfits, hrefused, -, hparse, hmisses⟩ := image_parsed_exactly
  obtain ⟨bytes, hencode⟩ := (hfits sampleEthereum).2 (by decide +kernel)
  obtain ⟨hmore, hless⟩ := hmisses sampleEthereum bytes hencode
  have hlength : bytes.length = 19 := by
    rw [(encode_eq_ok_iff.1 hencode).2]
    decide +kernel
  refine ⟨bytes, hencode, (hparse _ _).2 hencode, hmore [0x00] (List.cons_ne_nil _ _),
    hless 18 (by omega), (hrefused _ _).2 ⟨List.replicate 256 0x45, ?_, ?_⟩⟩
  · decide +kernel
  · rw [List.length_replicate]

end Countersign.CurrencyConfig

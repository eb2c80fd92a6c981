/-
# The shapes of coin configurations

Nothing in a coin configuration says which of its parts are there: a chain id, a fees asset and the
decimals of the fees are recognised by whether bytes are left. The main statement is that the shapes
are told apart all the same. Each configuration that has an encoding is read back from it as a
whole, and each byte string that is read is the encoding of what is found in it. So an empty fees
ticker, a single zero byte, is not taken for missing fees, nor are zero decimals for missing ones.
-/

import Countersign.Proofs.Currency.Coin

namespace Countersign.CoinConfig

open Countersign.Field (prefixedForm)

/-- Decoding finds a configuration exactly in its form, and takes all of it. -/
theorem decode_eq_ok_iff {bytes : Bytes} {config : CoinConfig} {count : Nat} :
    decode bytes = .ok (config, count) ↔
      config.Writable ∧ bytes = config.form ∧ count = bytes.length := by
  rw [decode_eq_ok_iff_read]
  constructor
  · rintro ⟨rest, hread, rfl⟩
    obtain ⟨hwritable, rfl, hform⟩ := read_eq_ok_iff.1 hread
    exact ⟨hwritable, hform, rfl⟩
  · rintro ⟨hwritable, hform, rfl⟩
    exact ⟨[], read_eq_ok_iff.2 ⟨hwritable, rfl, hform⟩, rfl⟩

/-- What is left after the decimals is taken for a chain id, and so has to be long enough. -/
theorem read_of_few_digits {element digits : Bytes} (decimals : UInt8)
    (hshort : element.length ≤ maxPrefixed) (hsome : digits ≠ []) (hfew : digits.length < 8) :
    read (prefixedForm element ++ decimals :: digits) =
      .error (if (Bytes.toText? element).isSome then .invalidLength else .invalidUtf8) := by
  have hchain : readChainId digits = .error .invalidLength := by
    rw [readChainId, if_neg (by simpa using hsome), Field.run, if_pos hfew]
    rfl
  rw [read, Field.prefixedText_prefixedForm_append _ hshort]
  cases Bytes.toText? element with
  | none => rfl
  | some ticker =>
    simp only [Option.elim, bind, Except.bind, Field.byte, hchain, Option.isSome, if_true]

theorem readChainId_append {digits : Bytes} (rest : Bytes) (hdigits : digits.length = 8) :
    readChainId (digits ++ rest) =
      .ok (some (UInt64.ofNat (BigEndian.value digits)), rest) := by
  have hsome : ¬(digits ++ rest).isEmpty := by
    rw [List.isEmpty_iff, List.append_eq_nil_iff]
    rintro ⟨rfl, -⟩
    cases hdigits
  have hrun := Field.run_eq_ok_iff.2 ⟨hdigits, Eq.refl (digits ++ rest)⟩
  rw [readChainId, if_neg hsome, hrun]
  rfl

/-- Nothing may follow the decimals of the fees. -/
theorem read_of_bytes_after_fees {element digits feesElement extra : Bytes}
    (decimals feesDecimals : UInt8) (hshort : element.length ≤ maxPrefixed)
    (hdigits : digits.length = 8) (hfees : feesElement.length ≤ maxPrefixed) (hextra : extra ≠ []) :
    read (prefixedForm element ++
        decimals :: (digits ++ (prefixedForm feesElement ++ feesDecimals :: extra))) =
      .error (if (Bytes.toText? element).isSome ∧ (Bytes.toText? feesElement).isSome then
        .invalidEncoding else .invalidUtf8) := by
  rw [read, Field.prefixedText_prefixedForm_append _ hshort]
  cases Bytes.toText? element with
  | none => rfl
  | some ticker =>
    have hread := Field.prefixedText_prefixedForm_append (feesDecimals :: extra) hfees
    have hsome : ¬(prefixedForm feesElement ++ feesDecimals :: extra).isEmpty := by
      rw [prefixedForm, List.cons_append, List.isEmpty_cons]
      exact Bool.false_ne_true
    simp only [Option.elim, bind, Except.bind, Field.byte, readChainId_append _ hdigits, readFees,
      if_neg hsome, hread]
    cases Bytes.toText? feesElement with
    | none => rfl
    | some feesTicker =>
      -- the fees take one byte after their ticker, and the end is not reached
      cases extra with
      | nil => exact absurd rfl hextra
      | cons first extra => rfl

/-- A configuration is encoded exactly if its tickers fit behind one byte and its fees, if there are
any, come with a chain id. Then it is read back from its encoding as a whole; and whatever is read
as a configuration is its encoding. So a chain id that is cut off is never read, nor is anything
read behind the decimals of the fees. -/
theorem shapes_read_back (config : CoinConfig) :
    ((∃ bytes, encode config = .ok bytes) ↔
        (Bytes.ofText config.ticker).length ≤ maxPrefixed ∧
          ∀ fees ∈ config.fees,
            config.chainId.isSome ∧ (Bytes.ofText fees.ticker).length ≤ maxPrefixed) ∧
      (∀ bytes, encode config = .ok bytes → decode bytes = .ok (config, bytes.length)) ∧
      (∀ bytes count, decode bytes = .ok (config, count) →
        encode config = .ok bytes ∧ count = bytes.length) ∧
      (∀ (element digits : Bytes) (decimals : UInt8), element.length ≤ maxPrefixed →
        1 ≤ digits.length → digits.length ≤ 7 →
          (decode (prefixedForm element ++ decimals :: digits) :
              Except WireError (CoinConfig × Nat)) =
            .error (if (Bytes.toText? element).isSome then .invalidLength else .invalidUtf8)) ∧
      ∀ (element digits feesElement extra : Bytes) (decimals feesDecimals : UInt8),
        element.length ≤ maxPrefixed → digits.length = 8 → feesElement.length ≤ maxPrefixed →
        extra ≠ [] →
          (decode (prefixedForm element ++
                decimals :: (digits ++ (prefixedForm feesElement ++ feesDecimals :: extra))) :
              Except WireError (CoinConfig × Nat)) =
            .error (if (Bytes.toText? element).isSome ∧ (Bytes.toText? feesElement).isSome then
              .invalidEncoding else .invalidUtf8) := by
  refine ⟨?_, ?_, ?_, ?_, ?_⟩
  · constructor
    · rintro ⟨bytes, hencode⟩
      have hwritable := (encode_eq_ok_iff.1 hencode).1
      exact ⟨hwritable.ticker, hwritable.fees⟩
    · rintro ⟨hticker, hfees⟩
      exact ⟨config.form, encode_eq_ok_iff.2 ⟨⟨hticker, hfees⟩, rfl⟩⟩
  · intro bytes hencode
    obtain ⟨hwritable, hform⟩ := encode_eq_ok_iff.1 hencode
    exact decode_eq_ok_iff.2 ⟨hwritable, hform, rfl⟩
  · intro bytes count hdecode
    obtain ⟨hwritable, hform, hcount⟩ := decode_eq_ok_iff.1 hdecode
    exact ⟨encode_eq_ok_iff.2 ⟨hwritable, hform⟩, hcount⟩
  · intro element digits decimals hshort hsome hfew
    have hdigits : digits ≠ [] := List.ne_nil_of_length_pos hsome
    exact decode_of_read_error
      (read_of_few_digits decimals hshort hdigits (Nat.lt_succ_of_le hfew))
  · intro element digits feesElement extra decimals feesDecimals hshort hdigits hfees hextra
    exact decode_of_read_error
      (read_of_bytes_after_fees decimals feesDecimals hshort hdigits hfees hextra)

/-- A coin on a chain whose fees asset has no name, and the same with zero decimals of its fees. One
zero byte tells them apart, and a second one after it is refused, as is a chain id cut off. -/
theorem shapes_read_back_nameless_fees :
    decode [1, 0x41, 6, 0, 0, 0, 0, 0, 0, 0, 1, 0] =
        .ok ((⟨"A", 6, some 1, some ⟨"", none⟩⟩ : CoinConfig), 12) ∧
      decode [1, 0x41, 6, 0, 0, 0, 0, 0, 0, 0, 1, 0, 0] =
        .ok ((⟨"A", 6, some 1, some ⟨"", some 0⟩⟩ : CoinConfig), 13) ∧
      (decode [1, 0x41, 6, 0, 0, 0, 0, 0, 0, 0, 1, 0, 0, 0] :
        Except WireError (CoinConfig × Nat)) = .error .invalidEncoding ∧
      (decode [1, 0x41, 6, 1] : Except WireError (CoinConfig × Nat)) = .error .invalidLength ∧
      ¬∃ bytes, encode (⟨"A", 6, none, some ⟨"", none⟩⟩ : CoinConfig) = .ok bytes := by
  obtain ⟨-, hback, -⟩ := shapes_read_back ⟨"A", 6, some 1, some ⟨"", none⟩⟩
  obtain ⟨-, hback', -, hfew, hafter⟩ := shapes_read_back ⟨"A", 6, some 1, some ⟨"", some 0⟩⟩
  obtain ⟨hencoded, -⟩ := shapes_read_back ⟨"A", 6, none, some ⟨"", none⟩⟩
  have htext : (Bytes.toText? [0x41]).isSome := by decide
  have hempty : (Bytes.toText? []).isSome := by decide
  refine ⟨hback _ rfl, hback' _ rfl, ?_, ?_, ?_⟩
  · have hread := hafter [0x41] [0, 0, 0, 0, 0, 0, 0, 1] [] [0] 6 0 (by decide) rfl (by decide)
      (by decide)
    rw [if_pos ⟨htext, hempty⟩] at hread
    exact hread
  · have hread := hfew [0x41] [1] 6 (by decide) (by decide) (by decide)
    rw [if_pos htext] at hread
    exact hread
  · rw [hencoded]
    rintro ⟨-, hfees⟩
    exact absurd (hfees ⟨"", none⟩ rfl).1 Bool.false_ne_true

end Countersign.CoinConfig

/-
# The form of coin configurations

Absent parts of a coin configuration leave no trace in its form. A fees asset would be taken for a
chain id without one in front of it, so such a configuration has no form.
-/

import Countersign.Currency.Coin
import Countersign.Proofs.Bytes.BigEndian
import Countersign.Proofs.Wire.Writing

namespace Countersign.CoinConfig

/-- What the fields of a configuration have to be for it to have a written form. -/
structure Writable (config : CoinConfig) : Prop where
  ticker : (Bytes.ofText config.ticker).length ≤ maxPrefixed
  fees : ∀ fees ∈ config.fees,
    config.chainId.isSome ∧ (Bytes.ofText fees.ticker).length ≤ maxPrefixed

/-- The form of a chain id, where there is one. -/
def chainForm : Option UInt64 → Bytes
  | none => []
  | some chainId => BigEndian.fixed 8 chainId.toNat

/-- The form of a fees asset, where there is one. -/
def feesForm : Option FeesAsset → Bytes
  | none => []
  | some fees => Field.prefixedForm (Bytes.ofText fees.ticker) ++ fees.decimals.toList

/-- The written form of a configuration. -/
def form (config : CoinConfig) : Bytes :=
  Field.prefixedForm (Bytes.ofText config.ticker) ++
    ([config.decimals] ++ (chainForm config.chainId ++ feesForm config.fees))

theorem putChainId_eq_put (chainId : Option UInt64) (buffer : Buffer) :
    putChainId chainId buffer = buffer.put (chainForm chainId) := by
  cases chainId with
  | none => exact (Buffer.put_nil buffer).symm
  | some chainId => rfl

theorem putFees_eq_put {fees : Option FeesAsset}
    (hshort : ∀ asset ∈ fees, (Bytes.ofText asset.ticker).length ≤ maxPrefixed) (buffer : Buffer) :
    putFees fees buffer = buffer.put (feesForm fees) := by
  cases fees with
  | none => exact (Buffer.put_nil buffer).symm
  | some asset =>
    rw [feesForm, ← Buffer.put_put, ← Buffer.putPrefixed_of_length_le (hshort asset rfl)]
    rfl

theorem encodedLength_eq_length_form {config : CoinConfig} (hwritable : config.Writable) :
    config.encodedLength = .ok config.form.length := by
  obtain ⟨ticker, decimals, chainId, fees⟩ := config
  have hticker := prefixedLength_eq_ok_iff.2 ⟨hwritable.ticker, rfl⟩
  simp only [encodedLength, hticker, bind, Except.bind, form, List.length_append,
    Field.length_prefixedForm, List.length_singleton]
  cases chainId with
  | none =>
    cases fees with
    | none => rfl
    | some asset => exact absurd (hwritable.fees asset rfl).1 (by simp)
  | some chainId =>
    cases fees with
    | none => simp only [chainForm, feesForm, BigEndian.length_fixed, List.length_nil, Nat.add_zero,
        Nat.add_assoc]
    | some asset =>
      have hasset := prefixedLength_eq_ok_iff.2 ⟨(hwritable.fees asset rfl).2, rfl⟩
      simp only [hasset, chainForm, feesForm, BigEndian.length_fixed, List.length_append,
        Field.length_prefixedForm, Nat.add_assoc]

theorem writable_of_encodedLength {config : CoinConfig} {size : Nat}
    (hsize : config.encodedLength = .ok size) : config.Writable := by
  obtain ⟨ticker, decimals, chainId, fees⟩ := config
  obtain ⟨count, hticker, hrest⟩ := bind_eq_ok_iff.1 hsize
  refine ⟨(prefixedLength_eq_ok_iff.1 hticker).1, ?_⟩
  rintro asset rfl
  cases chainId with
  | none => cases hrest
  | some chainId =>
    obtain ⟨count', hasset, -⟩ := bind_eq_ok_iff.1 hrest
    exact ⟨rfl, (prefixedLength_eq_ok_iff.1 hasset).1⟩

theorem writable_of_write {config : CoinConfig} {buffer written : Buffer}
    (hwrite : Encode.write config buffer = .ok written) : config.Writable := by
  obtain ⟨size, hsize, -⟩ := bind_eq_ok_iff.1 hwrite
  exact writable_of_encodedLength hsize

/-- A configuration puts its written form, if it has one. -/
theorem putsForm {config : CoinConfig} (hwritable : config.Writable) :
    PutsForm config config.form := by
  have hsize := encodedLength_eq_length_form hwritable
  refine ⟨hsize, fun buffer => ?_⟩
  simp only [Encode.write, hsize, bind, Except.bind]
  by_cases hroom : buffer.room.length < config.form.length
  · rw [if_pos hroom, Buffer.put, if_pos hroom]
  · have hfees : ∀ asset ∈ config.fees, (Bytes.ofText asset.ticker).length ≤ maxPrefixed :=
      fun asset hasset => (hwritable.fees asset hasset).2
    rw [if_neg hroom, form, ← List.append_assoc, ← List.append_assoc, ← Buffer.put_put,
      ← Buffer.put_put, ← Buffer.put_put, ← Buffer.putPrefixed_of_length_le hwritable.ticker]
    simp only [putChainId_eq_put, putFees_eq_put hfees]
    cases buffer.putPrefixed (Bytes.ofText config.ticker) with
    | error cause => rfl
    | ok next =>
      cases hdecimals : next.put [config.decimals] <;>
        simp only [bind, Except.bind, hdecimals]

/-- A configuration is encoded exactly if it has a written form. -/
theorem encode_eq_ok_iff {config : CoinConfig} {bytes : Bytes} :
    encode config = .ok bytes ↔ config.Writable ∧ bytes = config.form :=
  encode_eq_ok_iff_of_size (fun _ => writable_of_encodedLength)
    fun hwritable => (putsForm hwritable).encode_eq

/-- A chain id takes eight bytes, and is absent only where nothing follows. -/
theorem readChainId_eq_ok_iff {bytes rest : Bytes} {chainId : Option UInt64} :
    readChainId bytes = .ok (chainId, rest) ↔
      bytes = chainForm chainId ++ rest ∧ (chainId = none → rest = []) := by
  cases bytes with
  | nil =>
    rw [readChainId, List.isEmpty_nil, if_pos rfl, Except.ok.injEq, Prod.mk.injEq]
    constructor
    · rintro ⟨rfl, rfl⟩
      exact ⟨rfl, fun _ => rfl⟩
    · rintro ⟨hempty, -⟩
      obtain ⟨hchain, rfl⟩ := List.append_eq_nil_iff.1 hempty.symm
      cases chainId with
      | none => exact ⟨rfl, rfl⟩
      | some number => cases hchain
  | cons first body =>
    rw [readChainId, List.isEmpty_cons, if_neg Bool.false_ne_true, bind_eq_ok_iff]
    constructor
    · rintro ⟨⟨digits, after⟩, hrun, hfound⟩
      obtain ⟨hlength, hbytes⟩ := Field.run_eq_ok_iff.1 hrun
      cases hfound
      refine ⟨?_, fun hnone => by cases hnone⟩
      rw [chainForm, BigEndian.toNat_ofNat_value (Nat.le_of_eq hlength), hbytes]
      simp only [← hlength, BigEndian.fixed_value]
    · rintro ⟨hbytes, hrest⟩
      cases chainId with
      | none =>
        rw [hrest rfl] at hbytes
        cases hbytes
      | some number =>
        have hnumber : number.toNat < BigEndian.capacity 8 := number.toNat_lt
        refine ⟨_, Field.run_eq_ok_iff.2 ⟨BigEndian.length_fixed 8 number.toNat, hbytes⟩, ?_⟩
        simp only [BigEndian.value_fixed_of_lt hnumber, UInt64.ofNat_toNat]

/-- A fees asset takes up all of the bytes, and is absent only where there are none. -/
theorem readFees_eq_ok_iff {bytes : Bytes} {fees : Option FeesAsset} :
    readFees bytes = .ok (fees, []) ↔
      (∀ asset ∈ fees, (Bytes.ofText asset.ticker).length ≤ maxPrefixed) ∧
        bytes = feesForm fees := by
  cases bytes with
  | nil =>
    rw [readFees, List.isEmpty_nil, if_pos rfl, Except.ok.injEq, Prod.mk.injEq]
    cases fees with
    | none => simp [feesForm]
    | some asset => simp [feesForm, Field.prefixedForm]
  | cons first body =>
    rw [readFees, List.isEmpty_cons, if_neg Bool.false_ne_true, bind_eq_ok_iff]
    constructor
    · rintro ⟨⟨ticker, after⟩, hticker, hfound⟩
      obtain ⟨hshort, hbytes⟩ := Field.prefixedText_eq_ok_iff.1 hticker
      simp only [Except.ok.injEq, Prod.mk.injEq] at hfound
      obtain ⟨rfl, hend⟩ := hfound
      refine ⟨fun asset hasset => by cases hasset; exact hshort, ?_⟩
      rw [hbytes, feesForm]
      cases after with
      | nil => rfl
      | cons decimals after =>
        rw [List.tail_cons] at hend
        rw [hend]
        rfl
    · rintro ⟨hshort, hbytes⟩
      cases fees with
      | none => cases hbytes
      | some asset =>
        refine ⟨_, Field.prefixedText_eq_ok_iff.2 ⟨hshort asset rfl, hbytes⟩, ?_⟩
        obtain ⟨ticker, decimals⟩ := asset
        cases decimals <;> rfl

/-- A configuration is read exactly from its form, and from all of it. -/
theorem read_eq_ok_iff {bytes rest : Bytes} {config : CoinConfig} :
    read bytes = .ok (config, rest) ↔ config.Writable ∧ rest = [] ∧ bytes = config.form := by
  simp only [read, bind_eq_ok_iff]
  constructor
  · rintro ⟨⟨ticker, body⟩, hticker, ⟨decimals, body⟩, hbyte, ⟨chainId, body⟩, hchain,
      ⟨fees, after⟩, hfees, hfound⟩
    cases after with
    | cons first after => cases hfound
    | nil =>
      cases hfound
      obtain ⟨hshort, rfl⟩ := Field.prefixedText_eq_ok_iff.1 hticker
      obtain rfl := Field.byte_eq_ok_iff.1 hbyte
      obtain ⟨rfl, halone⟩ := readChainId_eq_ok_iff.1 hchain
      obtain ⟨hasset, rfl⟩ := readFees_eq_ok_iff.1 hfees
      refine ⟨⟨hshort, fun asset hmem => ⟨?_, hasset asset hmem⟩⟩, rfl, rfl⟩
      cases hmem
      cases chainId with
      | none => cases halone rfl
      | some number => rfl
  · rintro ⟨hwritable, rfl, rfl⟩
    obtain ⟨ticker, decimals, chainId, fees⟩ := config
    have halone : chainId = none → feesForm fees = [] := by
      rintro rfl
      cases fees with
      | none => rfl
      | some asset => exact absurd (hwritable.fees asset rfl).1 Bool.false_ne_true
    exact ⟨_, Field.prefixedText_eq_ok_iff.2 ⟨hwritable.ticker, rfl⟩,
      _, Field.byte_eq_ok_iff.2 rfl,
      _, readChainId_eq_ok_iff.2 ⟨rfl, halone⟩,
      _, readFees_eq_ok_iff.2 ⟨fun asset hmem => (hwritable.fees asset hmem).2, rfl⟩, rfl⟩

/-- The configuration in a byte string is the one whose form the bytes are, if there is one. -/
theorem parse_eq_ok_iff_form {bytes : Bytes} {config : CoinConfig} :
    parse bytes = .ok config ↔ config.Writable ∧ bytes = config.form := by
  rw [parse, map_eq_ok_iff]
  constructor
  · rintro ⟨⟨found, rest⟩, hread, rfl⟩
    obtain ⟨hwritable, -, hform⟩ := read_eq_ok_iff.1 hread
    exact ⟨hwritable, hform⟩
  · rintro ⟨hwritable, hform⟩
    exact ⟨_, read_eq_ok_iff.2 ⟨hwritable, rfl, hform⟩, rfl⟩

end Countersign.CoinConfig

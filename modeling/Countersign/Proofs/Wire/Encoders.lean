/-
# The encoders of all wire types

Each wire type says in two places how it is written: once when it announces a size, and once when
it writes. Here the two are held against each other, type by type. A value that announces a size is
written exactly where there is room for this size, as one byte string that depends on nothing but
the value, and a value that announces none is written nowhere.

The same encoders are given once more by the places of the memory they touch. Most ask for room
element by element. Commands, responses and coin configurations ask once, for the announced size,
and some of their elements rely on it: had the announced size been too small, they would leave the
memory.
-/

import Countersign.Proofs.Command.AddressCheck
import Countersign.Proofs.Command.Request
import Countersign.Proofs.Command.Response
import Countersign.Proofs.Command.Wire
import Countersign.Proofs.Credential.Form
import Countersign.Proofs.Currency.Coin
import Countersign.Proofs.Currency.Form
import Countersign.Proofs.Wire.InPlace

namespace Countersign

instance : EncodeInPlace Tlv where
  fill record cursor := do
    let cursor ← cursor.fill (.number record.tag)
    let cursor ← cursor.fill (.number (UInt64.ofNat record.value.length))
    cursor.copyWithin record.value

instance : EncodeInPlace CurrencyConfig where
  fill config cursor := do
    let cursor ← cursor.fill (.prefixed (Bytes.ofText config.ticker))
    let cursor ← cursor.fill (.prefixed (Bytes.ofText config.application))
    cursor.fill (.prefixed config.subConfig)

instance : EncodeInPlace Credential where
  fill credential cursor := do
    inside (checkPointForm credential.publicKey)
    let cursor ← cursor.fill (.prefixed (Bytes.ofText credential.name))
    cursor.fill (.run credential.publicKey)

instance : EncodeInPlace CredentialNg where
  fill credential cursor := do
    inside (checkPointForm credential.publicKey)
    let cursor ← cursor.fill (.prefixed (Bytes.ofText credential.name))
    let cursor ← cursor.copyWithin [credential.curve.code]
    cursor.fill (.run credential.publicKey)

instance : EncodeInPlace AddressCheck where
  fill check cursor := do
    let cursor ← cursor.fill (.prefixed check.config)
    let cursor ← cursor.fill (.run check.signature)
    cursor.fill (.prefixed check.path)

instance : EncodeInPlace Request where
  fill
    | .getVersion, cursor | .startNewTransaction, cursor | .getChallenge, cursor => .ok cursor
    | .setPartnerKey payload, cursor | .checkPartner payload, cursor
    | .trustedName payload, cursor => cursor.fill (.run payload)
    | .checkPayoutAddress check, cursor | .checkRefundAddress check, cursor =>
      EncodeInPlace.fill check cursor

instance : EncodeInPlace Version where
  fill version cursor := cursor.fill (.run version.toBytes)

instance : EncodeInPlace Challenge where
  fill challenge cursor := cursor.fill (.run challenge.toBytes)

/-- Lets work begin if the whole memory has room for a size, which may have been refused. -/
def Cursor.within (size : Except WireError Nat) (work : Cursor → Except Fault Cursor)
    (cursor : Cursor) : Except Fault Cursor := do
  let size ← inside size
  if cursor.memory.length < size then .error (.refused .invalidLength) else work cursor

instance : EncodeInPlace Command where
  fill command := Cursor.within command.encodedLength fun cursor => do
    let cursor ← cursor.copy [command.cla]
    let cursor ← cursor.copy [command.ins]
    let cursor ← cursor.copy [command.p1]
    let cursor ← cursor.copy [command.p2]
    let cursor ← cursor.copy [UInt8.ofNat command.data.length]
    cursor.copy command.data

instance : EncodeInPlace Response where
  fill response := Cursor.within (.ok (response.data.length + 2)) fun cursor => do
    let cursor ← cursor.copy response.data
    cursor.copy (BigEndian.fixed 2 response.status.toNat)

/-- Writes the chain id in place, if there is one. -/
def CoinConfig.fillChainId : Option UInt64 → Cursor → Except Fault Cursor
  | none, cursor => .ok cursor
  | some chainId, cursor => cursor.fill (.run (BigEndian.fixed 8 chainId.toNat))

/-- Writes the fees asset in place, if there is one. -/
def CoinConfig.fillFees : Option FeesAsset → Cursor → Except Fault Cursor
  | none, cursor => .ok cursor
  | some fees, cursor => do
    let cursor ← cursor.fill (.prefixed (Bytes.ofText fees.ticker))
    cursor.copy fees.decimals.toList

instance : EncodeInPlace CoinConfig where
  fill config := Cursor.within config.encodedLength fun cursor => do
    let cursor ← cursor.fill (.prefixed (Bytes.ofText config.ticker))
    let cursor ← cursor.copy [config.decimals]
    let cursor ← CoinConfig.fillChainId config.chainId cursor
    CoinConfig.fillFees config.fees cursor

section

variable {α : Type} [Encode α] [EncodeInPlace α] {value : α} {form : Bytes}
variable {work : Cursor → Except Fault Cursor}

/-- Work that begins only where there is room for its form writes inside every memory, if the writer
puts the form. -/
theorem writesInside_of_fillsRoom (hputs : PutsForm value form)
    (hwithin : EncodeInPlace.fill value = Cursor.within (Encode.encodedLength value) work)
    (hfills : FillsRoom work form) : WritesInside value := by
  intro memory
  rw [hwithin, hputs.size, hputs.write]
  by_cases hroom : memory.length < form.length
  · rw [Buffer.put, Buffer.untouched, if_pos hroom]
    exact if_pos hroom
  · rw [← hfills (Buffer.untouched memory) (Nat.not_lt.1 hroom)]
    exact if_neg hroom

/-- What announces no size is not begun, and so written nowhere. -/
theorem writesInside_of_error {cause : WireError}
    (hsize : Encode.encodedLength value = .error cause)
    (hwrite : ∀ buffer, Encode.write value buffer = .error cause)
    (hwithin : EncodeInPlace.fill value = Cursor.within (Encode.encodedLength value) work) :
    WritesInside value := by
  intro memory
  rw [hwithin, hsize, hwrite]
  rfl

end

theorem Tlv.writesInside (record : Tlv) : WritesInside record := fun _ =>
  ((Agrees.number _).bind ((Agrees.number _).bind (Agrees.copyWithin _))) _

theorem CurrencyConfig.writesInside (config : CurrencyConfig) : WritesInside config := fun _ =>
  ((Agrees.prefixed _).bind ((Agrees.prefixed _).bind (Agrees.prefixed _))) _

theorem AddressCheck.writesInside (check : AddressCheck) : WritesInside check := fun _ =>
  ((Agrees.prefixed _).bind ((Agrees.run _).bind (Agrees.prefixed _))) _

theorem Credential.writesInside (credential : Credential) : WritesInside credential := fun _ =>
  Agrees.check _ ((Agrees.prefixed _).bind (Agrees.run _)) _

theorem CredentialNg.writesInside (credential : CredentialNg) : WritesInside credential := fun _ =>
  Agrees.check _ ((Agrees.prefixed _).bind ((Agrees.copyWithin _).bind (Agrees.run _))) _

theorem Request.writesInside (request : Request) : WritesInside request := by
  intro memory
  cases request with
  | getVersion | startNewTransaction | getChallenge => rfl
  | setPartnerKey payload | checkPartner payload | trustedName payload =>
    exact Agrees.run payload _
  | checkPayoutAddress check | checkRefundAddress check => exact check.writesInside memory

theorem Version.writesInside (version : Version) : WritesInside version :=
  fun _ => Agrees.run _ _

theorem Challenge.writesInside (challenge : Challenge) : WritesInside challenge :=
  fun _ => Agrees.run _ _

theorem Response.writesInside (response : Response) : WritesInside response :=
  writesInside_of_fillsRoom response.putsForm rfl ((FillsRoom.copy _).bind (FillsRoom.copy _))

theorem Command.writesInside (command : Command) : WritesInside command := by
  cases hsize : command.encodedLength with
  | error cause =>
    refine writesInside_of_error hsize (fun buffer => ?_) rfl
    simp only [Encode.write, hsize, bind, Except.bind]
  | ok size =>
    refine writesInside_of_fillsRoom (putsForm (length_le_of_encodedLength hsize)) rfl ?_
    exact (FillsRoom.copy _).bind ((FillsRoom.copy _).bind ((FillsRoom.copy _).bind
      ((FillsRoom.copy _).bind ((FillsRoom.copy _).bind (FillsRoom.copy _)))))

theorem CoinConfig.fillChainId_fillsRoom (chainId : Option UInt64) :
    FillsRoom (fillChainId chainId) (chainForm chainId) := by
  cases chainId with
  | none => exact FillsRoom.nothing
  | some chainId => exact FillsRoom.run _

theorem CoinConfig.fillFees_fillsRoom {fees : Option FeesAsset}
    (hshort : ∀ asset ∈ fees, (Bytes.ofText asset.ticker).length ≤ maxPrefixed) :
    FillsRoom (fillFees fees) (feesForm fees) := by
  cases fees with
  | none => exact FillsRoom.nothing
  | some asset => exact (FillsRoom.prefixed (hshort asset rfl)).bind (FillsRoom.copy _)

theorem CoinConfig.writesInside (config : CoinConfig) : WritesInside config := by
  cases hsize : config.encodedLength with
  | error cause =>
    refine writesInside_of_error hsize (fun buffer => ?_) rfl
    simp only [Encode.write, hsize, bind, Except.bind]
  | ok size =>
    have hwritable := writable_of_encodedLength hsize
    refine writesInside_of_fillsRoom (putsForm hwritable) rfl ?_
    exact (FillsRoom.prefixed hwritable.ticker).bind ((FillsRoom.copy _).bind
      ((fillChainId_fillsRoom _).bind
        (fillFees_fillsRoom fun asset hasset => (hwritable.fees asset hasset).2)))

/-- Announcing a size, writing and encoding agree on a value. They are about one byte string,
whatever was in the buffer before, and no place outside the memory is touched on the way. -/
structure Consistent {α : Type} [Encode α] [EncodeInPlace α] (value : α) (form : Bytes) : Prop where
  size : ∀ count, Encode.encodedLength value = .ok count → count = form.length
  into : ∀ target count content, encodeInto value target = .ok (count, content) ↔
    Encode.encodedLength value = .ok count ∧ count ≤ target.length ∧
      content = form ++ target.drop count
  whole : encode value = (Encode.encodedLength value).map fun _ => form
  inPlace : ∀ memory, storeInto value memory = inside (encodeInto value memory)
  neverOutside : ∀ memory, storeInto value memory ≠ .error .outside

section

variable {α : Type} [Encode α] [EncodeInPlace α] {value : α} {form : Bytes}

/-- A value is consistent if it puts its form under a condition that announcing and writing both
need. -/
theorem consistent_of_putsForm {writable : Prop} (hputs : writable → PutsForm value form)
    (hsize : ∀ size, Encode.encodedLength value = .ok size → writable)
    (hwrite : ∀ buffer written, Encode.write value buffer = .ok written → writable)
    (hinside : WritesInside value) : Consistent value form where
  size count hcount := by
    rw [(hputs (hsize count hcount)).size] at hcount
    cases hcount
    rfl
  into target count content := by
    constructor
    · intro hinto
      obtain ⟨buffer, hbuffer⟩ := exists_write_of_encodeInto hinto
      have hform := hputs (hwrite _ buffer hbuffer)
      obtain ⟨hcount, hroom, hcontent⟩ := hform.encodeInto_eq_ok_iff.1 hinto
      rw [hform.size, hcount]
      exact ⟨rfl, hroom, hcontent⟩
    · rintro ⟨hcount, hroom, hcontent⟩
      have hform := hputs (hsize count hcount)
      rw [hform.size, Except.ok.injEq] at hcount
      exact hform.encodeInto_eq_ok_iff.2 ⟨hcount, hroom, hcontent⟩
  whole := by
    cases hannounced : Encode.encodedLength value with
    | error cause => exact encode_of_encodedLength_eq_error hannounced
    | ok count => exact (hputs (hsize count hannounced)).encode_eq
  inPlace := hinside.storeInto_eq
  neverOutside memory := by
    rw [hinside.storeInto_eq]
    exact inside_ne_outside _

/-- A value that puts its form on any terms is consistent. -/
theorem PutsForm.consistent (hputs : PutsForm value form) (hinside : WritesInside value) :
    Consistent value form :=
  @consistent_of_putsForm α _ _ value form True (fun _ => hputs) (fun _ _ => trivial)
    (fun _ _ _ => trivial) hinside

end

/-- The encoders of every wire type agree with the sizes that they announce, for every value and
every buffer, and none of them leaves its memory. -/
theorem consistent_form :
    (∀ record : Tlv, Consistent record record.form) ∧
    (∀ config : CurrencyConfig, Consistent config config.form) ∧
    (∀ config : CoinConfig, Consistent config config.form) ∧
    (∀ credential : Credential, Consistent credential credential.form) ∧
    (∀ credential : CredentialNg, Consistent credential credential.form) ∧
    (∀ command : Command, Consistent command command.form) ∧
    (∀ response : Response, Consistent response response.form) ∧
    (∀ check : AddressCheck, Consistent check check.form) ∧
    (∀ request : Request, Consistent request request.form) ∧
    (∀ version : Version, Consistent version version.toBytes) ∧
    ∀ challenge : Challenge, Consistent challenge challenge.toBytes := by
  refine ⟨fun record => ?_, fun config => ?_, fun config => ?_, fun credential => ?_,
    fun credential => ?_, fun command => ?_, fun response => ?_, fun check => ?_, fun request => ?_,
    fun version => ?_, fun challenge => ?_⟩
  · exact record.putsForm.consistent record.writesInside
  · exact consistent_of_putsForm CurrencyConfig.putsForm
      (fun _ => CurrencyConfig.writable_of_encodedLength)
      (fun _ _ => CurrencyConfig.writable_of_write) config.writesInside
  · exact consistent_of_putsForm CoinConfig.putsForm (fun _ => CoinConfig.writable_of_encodedLength)
      (fun _ _ => CoinConfig.writable_of_write) config.writesInside
  · exact consistent_of_putsForm Credential.putsForm (fun _ => Credential.writable_of_encodedLength)
      (fun _ _ => Credential.writable_of_write) credential.writesInside
  · exact consistent_of_putsForm CredentialNg.putsForm
      (fun _ => CredentialNg.writable_of_encodedLength)
      (fun _ _ => CredentialNg.writable_of_write) credential.writesInside
  · exact consistent_of_putsForm Command.putsForm (fun _ => Command.length_le_of_encodedLength)
      (fun _ _ => Command.length_le_of_write) command.writesInside
  · exact response.putsForm.consistent response.writesInside
  · exact consistent_of_putsForm AddressCheck.putsForm
      (fun _ => AddressCheck.writable_of_encodedLength)
      (fun _ _ => AddressCheck.writable_of_write) check.writesInside
  · exact consistent_of_putsForm Request.putsForm (fun _ => Request.fits_of_encodedLength)
      (fun _ _ => Request.fits_of_write) request.writesInside
  · exact version.putsForm.consistent version.writesInside
  · exact challenge.putsForm.consistent challenge.writesInside

end Countersign

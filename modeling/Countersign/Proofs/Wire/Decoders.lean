/-
# The decoders of all wire types

Each decoder is given once more by the places of the memory that it looks at: every byte, every
slice, every sum and every difference, in the order in which the program comes to them, and with its
own conditions where it asks them. Most look only where the field before has ended. The number in
front of a record and the sequence in an address check look ahead, and so does a command, whose
length stands in its middle.

All of them follow their readers. A condition that is missing, or weaker by one, would let some
memory end the program, and then the decoder would follow nothing.
-/

import Countersign.AddressCheck
import Countersign.Command
import Countersign.Credential
import Countersign.Currency
import Countersign.Proofs.Bytes.BigEndian
import Countersign.Proofs.Credential.Form
import Countersign.Proofs.Wire.Places
import Countersign.Tlv.Record

namespace Countersign

namespace InMemory

/-- A run of bytes. -/
def run (count : Nat) (memory : Bytes) : InPlace WireError (Bytes × Nat) :=
  if memory.length < count then refuse .invalidLength
  else do
    let taken ← sliceTo count memory
    .ok (taken, count)

/-- An element behind a one-byte length. -/
def prefixed (memory : Bytes) : InPlace WireError (Bytes × Nat) :=
  if memory.isEmpty then refuse .invalidLength
  else do
    let length ← byteAt 0 memory
    let size ← plus length.toNat 1
    if memory.length < size then refuse .invalidLength
    else do
      let body ← sliceFrom 1 memory
      let element ← sliceTo length.toNat body
      let size ← plus length.toNat 1
      .ok (element, size)

/-- An element behind a one-byte length, as text. -/
def prefixedText (memory : Bytes) : InPlace WireError (String × Nat) := do
  let (element, count) ← prefixed memory
  match Bytes.toText? element with
  | none => refuse .invalidUtf8
  | some text => .ok (text, count)

/-- A number with one more byte at its end. What does not fit is lost at the front. -/
def shiftIn (high : UInt64) (byte : UInt8) : UInt64 :=
  high <<< 8 ||| byte.toUInt64

/-- The number with these digits, which has to need all of them. -/
def numberOfDigits (digits : Bytes) : InPlace WireError UInt64 := do
  let top ← byteAt 0 digits
  if top = 0 then refuse .invalidEncoding
  else
    let number := digits.foldl shiftIn 0
    if number < 0x80 then refuse .invalidEncoding else .ok number

/-- A number in its minimal DER form. -/
def number (memory : Bytes) : InPlace WireError (UInt64 × Nat) :=
  match memory.head? with
  | none => refuse .invalidLength
  | some first =>
    if first < 0x80 then .ok (first.toUInt64, 1)
    else
      let width := (first &&& 0x7f).toNat
      if width = 0 ∨ 8 < width then refuse .invalidEncoding
      else do
        let size ← plus 1 width
        if memory.length < size then refuse .invalidLength
        else do
          let body ← sliceFrom 1 memory
          let digits ← sliceTo width body
          let number ← numberOfDigits digits
          let size ← plus 1 width
          .ok (number, size)

theorem decodes_run (count : Nat) : Decodes (run count) (Field.run count) := by
  intro memory _
  unfold run Field.run
  refine Follows.guarded Iff.rfl fun hroom => ?_
  rw [sliceTo_of_le (Nat.not_lt.1 hroom)]
  exact .found _ ⟨Nat.not_lt.1 hroom, rfl⟩

theorem decodes_prefixed : Decodes prefixed Field.prefixed := by
  intro memory _
  cases memory with
  | nil => exact .refused _
  | cons length body =>
    have hsum : length.toNat + 1 < UInt64.size :=
      Nat.lt_trans (Nat.succ_lt_succ length.toNat_lt) (by decide)
    have hbody : StandsAt (length :: body) 1 body := ⟨Nat.le_add_left 1 _, rfl⟩
    have hshort : (length :: body).length < length.toNat + 1 ↔ body.length < length.toNat := by
      rw [List.length_cons]
      omega
    rw [prefixed, List.isEmpty_cons, if_neg Bool.false_ne_true, Field.prefixed, Field.run]
    simp only [byteAt, List.getElem?_cons_zero, plus_of_lt hsum, hbody.sliceFrom_eq, bind,
      Except.bind, hshort]
    refine Follows.guarded Iff.rfl fun hroom => ?_
    rw [sliceTo_of_le (Nat.not_lt.1 hroom), Nat.add_comm]
    exact .found _ (hbody.trans ⟨Nat.not_lt.1 hroom, rfl⟩)

theorem decodes_prefixedText : Decodes prefixedText Field.prefixedText := by
  intro memory hmemory
  unfold prefixedText Field.prefixedText
  rcases (decodes_prefixed memory hmemory).cases with
    ⟨cause, hwork, hread⟩ | ⟨element, place, rest, hstands, hwork, hread⟩
  · rw [hwork, hread]
    exact .refused cause
  · simp only [hwork, hread, bind, Except.bind]
    cases Bytes.toText? element with
    | none => exact .refused _
    | some text => exact .found text hstands

/-- Shifting in a byte is counting it as the last of the digits. -/
theorem shiftIn_eq (high : UInt64) (byte : UInt8) :
    shiftIn high byte = high * 256 + byte.toUInt64 := by
  have hbyte := byte.toNat_lt
  have hshift : high.toNat <<< 8 % 2 ^ 64 = 2 ^ 8 * (high.toNat % 2 ^ 56) := by
    rw [Nat.shiftLeft_eq, Nat.mul_comm, show 2 ^ 64 = 2 ^ 8 * 2 ^ 56 from rfl, Nat.mul_mod_mul_left]
  apply UInt64.toNat_inj.1
  rw [shiftIn, UInt64.toNat_or, UInt64.toNat_shiftLeft, UInt64.toNat_add, UInt64.toNat_mul,
    UInt8.toNat_toUInt64, show (8 : UInt64).toNat % 64 = 8 from rfl, hshift,
    ← Nat.two_pow_add_eq_or_of_lt hbyte, show (256 : UInt64).toNat = 256 from rfl]
  omega

theorem foldl_shiftIn (digits : Bytes) (start : Nat) :
    digits.foldl shiftIn (UInt64.ofNat start) =
      UInt64.ofNat (digits.foldl (fun high byte => high * 256 + byte.toNat) start) := by
  induction digits generalizing start with
  | nil => rfl
  | cons digit digits ih =>
    have hstep : shiftIn (UInt64.ofNat start) digit = UInt64.ofNat (start * 256 + digit.toNat) := by
      rw [shiftIn_eq, UInt64.ofNat_add, UInt64.ofNat_mul, UInt64.ofNat_uInt8ToNat]
      rfl
    rw [List.foldl_cons, List.foldl_cons, hstep, ih]

/-- What the bytes come to when they are shifted in one by one is their value. -/
theorem foldl_shiftIn_zero (digits : Bytes) :
    digits.foldl shiftIn 0 = UInt64.ofNat (BigEndian.value digits) :=
  foldl_shiftIn digits 0

/-- Digits have a first one if there are any, and at most eight of them lose nothing when they are
shifted in. -/
theorem numberOfDigits_eq {digits : Bytes} (hsome : digits ≠ []) (hlength : digits.length ≤ 8) :
    numberOfDigits digits =
      safely (if digits.head? = some 0 ∨ BigEndian.value digits < 0x80 then
        .error .invalidEncoding else .ok (UInt64.ofNat (BigEndian.value digits))) := by
  have hvalue : UInt64.ofNat (BigEndian.value digits) < 0x80 ↔ BigEndian.value digits < 0x80 := by
    rw [UInt64.lt_iff_toNat_lt, BigEndian.toNat_ofNat_value hlength]
    rfl
  cases digits with
  | nil => exact absurd rfl hsome
  | cons top digits =>
    simp only [numberOfDigits, byteAt, List.getElem?_cons_zero, bind, Except.bind,
      foldl_shiftIn_zero, hvalue, List.head?_cons, Option.some.injEq]
    by_cases htop : top = 0
    · rw [if_pos htop, if_pos (Or.inl htop)]
      rfl
    · by_cases hsmall : BigEndian.value (top :: digits) < 0x80
      · rw [if_neg htop, if_pos hsmall, if_pos (Or.inr hsmall)]
        rfl
      · rw [if_neg htop, if_neg hsmall, if_neg (not_or.2 ⟨htop, hsmall⟩)]
        rfl

theorem decodes_number : Decodes number Der.read := by
  intro memory _
  cases memory with
  | nil => exact .refused _
  | cons first body =>
    have hfirst : StandsAt (first :: body) 1 body := ⟨Nat.le_add_left 1 _, rfl⟩
    rw [number, List.head?_cons, Der.read]
    dsimp only
    by_cases hshort : first < 0x80
    · rw [if_pos hshort, if_pos hshort]
      exact .found _ hfirst
    rw [if_neg hshort, if_neg hshort]
    generalize (first &&& 0x7f).toNat = width
    refine Follows.guarded Iff.rfl fun hwidth => ?_
    -- The width is checked before it is added to anything, and before the digits are sliced off.
    have hsum : 1 + width < UInt64.size := by
      have hsize : UInt64.size = 18446744073709551616 := rfl
      omega
    have hfew : (first :: body).length < 1 + width ↔ body.length < width := by
      rw [List.length_cons]
      omega
    simp only [plus_of_lt hsum, bind, Except.bind, hfew]
    refine Follows.guarded Iff.rfl fun hroom => ?_
    have hlength : (body.take width).length = width := List.length_take_of_le (Nat.not_lt.1 hroom)
    have hsome : body.take width ≠ [] := by
      rw [← List.length_pos_iff]
      omega
    simp only [hfirst.sliceFrom_eq, sliceTo_of_le (Nat.not_lt.1 hroom),
      numberOfDigits_eq hsome (show (body.take width).length ≤ 8 by omega)]
    by_cases hminimal : (body.take width).head? = some 0 ∨ BigEndian.value (body.take width) < 0x80
    · rw [if_pos hminimal, if_pos hminimal]
      exact .refused _
    · rw [if_neg hminimal, if_neg hminimal]
      exact .found _ (hfirst.trans ⟨Nat.not_lt.1 hroom, rfl⟩)

/-- The outer form of a point. Its tag is looked at only once its length is known. -/
def checkPoint (point : Bytes) : InPlace WireError Unit :=
  if point.length ≠ uncompressedPointLength then refuse .invalidLength
  else do
    let tag ← byteAt 0 point
    if tag ≠ uncompressedPointTag then refuse .invalidEncoding else .ok ()

theorem checkPoint_eq (point : Bytes) : checkPoint point = safely (checkPointForm point) := by
  unfold checkPoint checkPointForm
  by_cases hlength : point.length ≠ uncompressedPointLength
  · rw [if_pos hlength, if_pos hlength]
    rfl
  · rw [if_neg hlength, if_neg hlength]
    cases point with
    | nil => exact absurd (by decide) hlength
    | cons tag coordinates =>
      simp only [byteAt, List.getElem?_cons_zero, bind, Except.bind, List.head?_cons, ne_eq,
        Option.some.injEq]
      split <;> rfl

/-- A point of the outer form. -/
def point (memory : Bytes) : InPlace WireError (Bytes × Nat) := do
  let (point, count) ← run uncompressedPointLength memory
  checkPoint point
  .ok (point, count)

/-- A point of the outer form, read from the front. -/
def readPoint (bytes : Bytes) : Except WireError (Bytes × Bytes) := do
  let (point, rest) ← Field.run uncompressedPointLength bytes
  checkPointForm point
  .ok (point, rest)

theorem decodes_point : Decodes point readPoint := by
  intro memory hmemory
  refine (decodes_run _ memory hmemory).andThen fun point place rest hstands => ?_
  simp only [checkPoint_eq]
  exact Follows.checked fun _ _ => .found point hstands

/-- The curve that a code at a place stands for, and the place behind it. There may be no code. -/
def curveAt (memory : Bytes) (place : Nat) : InPlace WireError (Curve × Nat) :=
  match memory[place]? with
  | none => refuse .invalidLength
  | some code => do
    let curve ← safely (CredentialNg.curveOfCode code)
    let place ← plus place 1
    .ok (curve, place)

/-- The curve that a code at the front stands for. -/
def readCurve (bytes : Bytes) : Except WireError (Curve × Bytes) := do
  let (code, rest) ← Field.byte bytes
  let curve ← CredentialNg.curveOfCode code
  .ok (curve, rest)

theorem follows_curveAt {memory rest : Bytes} {place : Nat} (hmemory : Addressable memory)
    (hstands : StandsAt memory place rest) :
    Follows memory (curveAt memory place) (readCurve rest) := by
  have hbyte := hstands.getElem?_add 0
  rw [Nat.add_zero] at hbyte
  unfold curveAt readCurve
  cases rest with
  | nil =>
    rw [hbyte]
    exact .refused _
  | cons code rest =>
    rw [hbyte]
    refine Follows.checked fun curve _ => ?_
    have hplus := @StandsAt.plus_eq _ _ _ 1 WireError hstands hmemory (by simp)
    simp only [hplus, bind, Except.bind]
    exact .found curve (@StandsAt.append _ _ _ [code] hstands)

/-- The sequence in short form at a place, and the place behind it. -/
def sequenceAt (memory : Bytes) (place : Nat) : InPlace WireError (Bytes × Nat) := do
  let limit ← plus place 2
  if memory.length < limit then refuse .invalidEncoding
  else do
    let tag ← byteAt place memory
    if tag ≠ 0x30 then refuse .invalidEncoding
    else do
      let slice ← sliceFrom place memory
      let second ← plus place 1
      let length ← byteAt second memory
      let size ← plus length.toNat 2
      advance place (run size slice)

theorem follows_sequenceAt {memory rest : Bytes} {place : Nat} (hmemory : Addressable memory)
    (hstands : StandsAt memory place rest) :
    Follows memory (sequenceAt memory place) (AddressCheck.readSequence rest) := by
  have hlength := hstands.place_add_length
  have hlimit := @StandsAt.plus_eq _ _ _ 2 WireError hstands hmemory (by omega)
  have hsecond := @StandsAt.plus_eq _ _ _ 1 WireError hstands hmemory (by omega)
  unfold sequenceAt
  simp only [hlimit, hsecond, bind, Except.bind]
  match rest, hstands with
  | [], _ | [_], _ =>
    rw [if_pos (by simp at hlength; omega)]
    exact .refused _
  | tag :: length :: body, hstands =>
    have htag : memory[place]? = some tag := hstands.getElem?_add 0
    have hbyte : memory[place + 1]? = some length := hstands.getElem?_add 1
    have hsize : length.toNat + 2 < UInt64.size :=
      Nat.lt_trans (Nat.add_lt_add_right length.toNat_lt 2) (by decide)
    rw [if_neg (by simp at hlength; omega), AddressCheck.readSequence]
    simp only [byteAt_of_getElem? htag, byteAt_of_getElem? hbyte, hstands.sliceFrom_eq,
      plus_of_lt hsize]
    refine Follows.guarded Iff.rfl fun _ => ?_
    exact (decodes_run _ _ (hstands.addressable hmemory)).advanced hstands hmemory

end InMemory

/-- Values with a decoder that works on memory in place. -/
class DecodeInPlace (α : Type) where
  /-- The value at the front of the memory, and how many bytes it takes. -/
  find : Bytes → InPlace WireError (α × Nat)

open InMemory

instance : DecodeInPlace Tlv where
  find memory := do
    let (tag, place) ← readAt number memory 0
    let (length, place) ← readAt number memory place
    let room ← minus memory.length place
    if room < length.toNat then refuse .invalidLength
    else do
      let slice ← sliceFrom place memory
      let value ← sliceTo length.toNat slice
      let place ← plus place length.toNat
      .ok (⟨tag, value⟩, place)

instance : DecodeInPlace CurrencyConfig where
  find memory := do
    let (ticker, place) ← readAt prefixedText memory 0
    let (application, place) ← readAt prefixedText memory place
    let (subConfig, place) ← readAt prefixed memory place
    .ok (⟨ticker, application, subConfig⟩, place)

instance : DecodeInPlace Credential where
  find memory := do
    let (name, place) ← advance 0 (prefixedText memory)
    let (publicKey, place) ← readAt point memory place
    .ok (⟨name, publicKey⟩, place)

instance : DecodeInPlace CredentialNg where
  find memory := do
    let (name, place) ← advance 0 (prefixedText memory)
    let (curve, place) ← curveAt memory place
    let (publicKey, place) ← readAt point memory place
    .ok (⟨name, curve, publicKey⟩, place)

instance : DecodeInPlace AddressCheck where
  find memory := do
    let (config, place) ← advance 0 (prefixed memory)
    let (signature, place) ← sequenceAt memory place
    let (path, place) ← readAt prefixed memory place
    .ok (⟨config, signature, path⟩, place)

instance : DecodeInPlace Command where
  find memory :=
    if memory.length < commandHeaderLength then refuse .invalidLength
    else do
      let length ← byteAt 4 memory
      let size ← plus commandHeaderLength length.toNat
      if memory.length < size then refuse .invalidLength
      else do
        let cla ← byteAt 0 memory
        let ins ← byteAt 1 memory
        let p1 ← byteAt 2 memory
        let p2 ← byteAt 3 memory
        let body ← sliceFrom commandHeaderLength memory
        let data ← sliceTo length.toNat body
        let size ← plus commandHeaderLength length.toNat
        .ok (⟨cla, ins, p1, p2, data⟩, size)

section Whole

variable {ε α : Type}

/-- The value that takes up the whole memory, if there is one. -/
def findWhole? [DecodeInPlace α] (memory : Bytes) : InPlace ε (Option α) := do
  match ← outcomeOf (DecodeInPlace.find memory : InPlace WireError (α × Nat)) with
  | .error _ => .ok none
  | .ok (value, count) => .ok (if count ≠ memory.length then none else some value)

theorem Follows.findWhole?_eq [Decode α] [DecodeInPlace α] {memory : Bytes}
    (hfollows : @Follows WireError α memory (DecodeInPlace.find memory) (Decode.read memory)) :
    findWhole? memory = (.ok (decodeWhole? memory) : InPlace ε (Option α)) := by
  unfold findWhole? decodeWhole?
  rcases hfollows.cases with ⟨cause, hfind, hread⟩ | ⟨value, place, rest, hstands, hfind, hread⟩
  · rw [hfind, hread]
    rfl
  · rw [hfind, hread]
    simp only [outcomeOf, bind, Except.bind, ne_eq, hstands.place_eq_length_iff]
    cases rest <;> rfl

end Whole

/-- The configuration that takes up the whole memory. -/
def CurrencyConfig.parseInPlace (memory : Bytes) : InPlace WireError CurrencyConfig := do
  let (config, count) ← DecodeInPlace.find memory
  if count ≠ memory.length then refuse .invalidEncoding else .ok config

/-- The decoder of a type follows its reader on all memory. -/
def ReadsInside (α : Type) [Decode α] [DecodeInPlace α] : Prop :=
  @Decodes WireError α DecodeInPlace.find Decode.read

/-- The decoder of a type does not end the program on this memory. -/
def DecodesSafely (α : Type) [Decode α] [DecodeInPlace α] (memory : Bytes) : Prop :=
  @SafeOn WireError α memory DecodeInPlace.find Decode.read

theorem Tlv.readsInside : ReadsInside Tlv := by
  intro memory hmemory
  refine (decodes_number.readAt hmemory (StandsAt.start memory)).andThen
    fun tag place rest htag => ?_
  refine (decodes_number.readAt hmemory htag).andThen fun length place rest hlength => ?_
  have hinside := hlength.inside
  have hroom := hlength.place_add_length
  have hminus : memory.length - place = rest.length := by omega
  simp only [minus_of_le hinside, hminus, bind, Except.bind, hlength.sliceFrom_eq]
  refine Follows.guarded Iff.rfl fun hshort => ?_
  have hplus := @StandsAt.plus_eq _ _ _ length.toNat WireError hlength hmemory (by omega)
  simp only [sliceTo_of_le (Nat.not_lt.1 hshort), hplus]
  exact .found _ (hlength.trans ⟨Nat.not_lt.1 hshort, rfl⟩)

theorem CurrencyConfig.readsInside : ReadsInside CurrencyConfig := by
  intro memory hmemory
  refine (decodes_prefixedText.readAt hmemory (StandsAt.start memory)).andThen
    fun ticker place rest hticker => ?_
  refine (decodes_prefixedText.readAt hmemory hticker).andThen
    fun application place rest happlication => ?_
  refine (decodes_prefixed.readAt hmemory happlication).andThen
    fun subConfig place rest hsubConfig => ?_
  exact .found _ hsubConfig

/-- A configuration is read in place as it is read from the front. -/
theorem CurrencyConfig.parseInPlace_eq {memory : Bytes} (hmemory : Addressable memory) :
    parseInPlace memory = safely (parse memory) := by
  have hfollows : Follows memory (DecodeInPlace.find memory) (read memory) :=
    readsInside memory hmemory
  unfold parseInPlace parse
  rcases hfollows.cases with ⟨cause, hfind, hread⟩ | ⟨config, place, rest, hstands, hfind, hread⟩
  · rw [hfind, hread]
    rfl
  · rw [hfind, hread]
    simp only [bind, Except.bind, ne_eq, hstands.place_eq_length_iff]
    cases rest <;> rfl

theorem AddressCheck.readsInside : ReadsInside AddressCheck := by
  intro memory hmemory
  refine ((decodes_prefixed memory hmemory).advanced (StandsAt.start memory) hmemory).andThen
    fun config place rest hconfig => ?_
  refine (follows_sequenceAt hmemory hconfig).andThen fun signature place rest hsignature => ?_
  refine (decodes_prefixed.readAt hmemory hsignature).andThen fun path place rest hpath => ?_
  exact .found _ hpath

theorem Credential.read_eq_readPoint (bytes : Bytes) :
    read bytes = (do
      let (name, rest) ← Field.prefixedText bytes
      let (publicKey, rest) ← readPoint rest
      .ok (⟨name, publicKey⟩, rest)) := by
  simp only [read, readPoint, bind_assoc]
  rfl

theorem CredentialNg.read_eq_readPoint (bytes : Bytes) :
    read bytes = (do
      let (name, rest) ← Field.prefixedText bytes
      let (curve, rest) ← readCurve rest
      let (publicKey, rest) ← readPoint rest
      .ok (⟨name, curve, publicKey⟩, rest)) := by
  simp only [read, readPoint, readCurve, bind_assoc]
  rfl

theorem Credential.readsInside : ReadsInside Credential := by
  intro memory hmemory
  rw [show Decode.read memory = _ from read_eq_readPoint memory]
  refine ((decodes_prefixedText memory hmemory).advanced (StandsAt.start memory) hmemory).andThen
    fun name place rest hname => ?_
  refine (decodes_point.readAt hmemory hname).andThen fun publicKey place rest hkey => ?_
  exact .found _ hkey

theorem CredentialNg.readsInside : ReadsInside CredentialNg := by
  intro memory hmemory
  rw [show Decode.read memory = _ from read_eq_readPoint memory]
  refine ((decodes_prefixedText memory hmemory).advanced (StandsAt.start memory) hmemory).andThen
    fun name place rest hname => ?_
  refine (follows_curveAt hmemory hname).andThen fun curve place rest hcurve => ?_
  refine (decodes_point.readAt hmemory hcurve).andThen fun publicKey place rest hkey => ?_
  exact .found _ hkey

/-- A command has so few places that the machine has numbers for all of them, in whatever memory it
stands. -/
theorem Command.follows_find (memory : Bytes) :
    Follows memory (DecodeInPlace.find memory) (Command.read memory) := by
  match memory with
  | [] | [_] | [_, _] | [_, _, _] | [_, _, _, _] => exact .refused _
  | cla :: ins :: p1 :: p2 :: length :: body =>
    have hbody : StandsAt (cla :: ins :: p1 :: p2 :: length :: body) commandHeaderLength body :=
      ⟨by simp [commandHeaderLength], rfl⟩
    have hsize : commandHeaderLength + length.toNat < UInt64.size :=
      Nat.lt_trans (Nat.add_lt_add_left length.toNat_lt _) (by decide)
    have hroom : (cla :: ins :: p1 :: p2 :: length :: body).length <
        commandHeaderLength + length.toNat ↔ body.length < length.toNat := by
      rw [← hbody.place_add_length]
      omega
    rw [Command.read, Field.run]
    simp only [DecodeInPlace.find, if_neg (Nat.not_lt.2 hbody.inside), byteAt,
      List.getElem?_cons_succ, List.getElem?_cons_zero, plus_of_lt hsize, hroom, hbody.sliceFrom_eq,
      bind, Except.bind]
    by_cases hshort : body.length < length.toNat
    · rw [if_pos hshort, if_pos hshort]
      exact .refused _
    · rw [if_neg hshort, if_neg hshort]
      simp only [sliceTo_of_le (Nat.not_lt.1 hshort)]
      exact .found _ (hbody.trans ⟨Nat.not_lt.1 hshort, rfl⟩)

theorem Command.readsInside : ReadsInside Command :=
  fun memory _ => follows_find memory

end Countersign

/-
# Requests on their way to the device

A request becomes a command in two steps, each with a limit of its own: the fields of an address
check have to fit behind one byte each, and then the data have to fit the command. What passes both
is read back on the other side as the command it was put into, and as the request it was, except
that an address check is read back only if its signature says how long it is.

The second half is about the commands that a client of this library has not written. Every byte
string that a device reads as a command is the written form of that command, so no command can be
written in two ways.
-/

import Countersign.Command.Request
import Countersign.Proofs.Command.AddressCheck
import Countersign.Proofs.Command.Wire
import Countersign.Proofs.Wire.SelfDelimiting
import Countersign.Stream.Frame

namespace Countersign

namespace Request

/-- The fields of a request that stand behind their lengths, in the order in which they are put. -/
def prefixedFields : Request → List Bytes
  | checkPayoutAddress check | checkRefundAddress check => check.prefixedFields
  | _ => []

/-- The first field of a request that does not fit behind its length. -/
def longField? (request : Request) : Option Bytes :=
  request.prefixedFields.find? fun field => maxPrefixed < field.length

/-- The written form of a request. -/
def form : Request → Bytes
  | getVersion | startNewTransaction | getChallenge => []
  | setPartnerKey payload | checkPartner payload | trustedName payload => payload
  | checkPayoutAddress check | checkRefundAddress check => check.form

/-- Whether the data of a request say by themselves where each of its fields ends. -/
def Delimited : Request → Prop
  | checkPayoutAddress check | checkRefundAddress check => AddressCheck.IsSequence check.signature
  | _ => True

/-- A request puts its written form, if all of its fields fit. -/
theorem putsForm {request : Request} (hfits : request.longField? = none) :
    PutsForm request request.form := by
  cases request with
  | getVersion | startNewTransaction | getChallenge | setPartnerKey _ | checkPartner _
  | trustedName _ => exact putsForm_of_payload rfl
  | checkPayoutAddress check | checkRefundAddress check =>
    have hputs := AddressCheck.putsForm (AddressCheck.writable_iff.2 hfits)
    exact ⟨hputs.size, hputs.write⟩

theorem fits_of_encodedLength {request : Request} {size : Nat}
    (hsize : Encode.encodedLength request = .ok size) : request.longField? = none := by
  cases request with
  | getVersion | startNewTransaction | getChallenge | setPartnerKey _ | checkPartner _
  | trustedName _ => rfl
  | checkPayoutAddress check | checkRefundAddress check =>
    have hcheck : Encode.encodedLength check = .ok size := hsize
    exact AddressCheck.writable_iff.1 (AddressCheck.writable_of_encodedLength hcheck)

theorem fits_of_write {request : Request} {buffer written : Buffer}
    (hwrite : Encode.write request buffer = .ok written) : request.longField? = none := by
  cases request with
  | getVersion | startNewTransaction | getChallenge | setPartnerKey _ | checkPartner _
  | trustedName _ => rfl
  | checkPayoutAddress check | checkRefundAddress check =>
    have hcheck : Encode.write check buffer = .ok written := hwrite
    exact AddressCheck.writable_iff.1 (AddressCheck.writable_of_write hcheck)

/-- The first field of a request that is too long is the one that is refused. -/
theorem encode_of_longField {request : Request} {field : Bytes}
    (hlong : request.longField? = some field) :
    encode request = .error (.elementTooLong field.length) := by
  cases request with
  | getVersion | startNewTransaction | getChallenge | setPartnerKey _ | checkPartner _
  | trustedName _ => cases hlong
  | checkPayoutAddress check | checkRefundAddress check => exact AddressCheck.encode_of_long hlong

/-- A request is encoded exactly if all of its fields fit. -/
theorem encode_eq_ok_iff {request : Request} {bytes : Bytes} :
    encode request = .ok bytes ↔ request.longField? = none ∧ bytes = request.form := by
  cases hlong : request.longField? with
  | none => rw [(putsForm hlong).encode_eq, Except.ok.injEq, eq_comm, eq_self, true_and]
  | some field => simp only [encode_of_longField hlong, reduceCtorEq, false_and]

/-- The data of a request are read back, with nothing left over, exactly if they are its written
form and say where the fields end. -/
theorem read?_eq_some_iff {request : Request} {bytes : Bytes} :
    read? request.instruction bytes = some (.ok (request, [])) ↔
      request.longField? = none ∧ request.Delimited ∧ bytes = request.form := by
  cases request with
  | getVersion | startNewTransaction | getChallenge =>
    simp [read?, instruction, longField?, prefixedFields, Delimited, form]
  | setPartnerKey payload | checkPartner payload | trustedName payload =>
    simp [read?, instruction, longField?, prefixedFields, Delimited, form]
  | checkPayoutAddress check | checkRefundAddress check =>
    rw [longField?, prefixedFields, ← AddressCheck.writable_iff, Delimited, form,
      ← List.append_nil check.form, ← AddressCheck.read_eq_ok_iff]
    simp [read?, instruction, map_eq_ok_iff]

/-- A command carries a request: it is as long as its header and the data, no longer than a device
reads, and a device that reads it finds the instruction, the parameters and the data of the request,
and in the data the request itself, if they say where its fields end. -/
structure CarriedBy (request : Request) (p1 p2 : UInt8) (payload bytes : Bytes) : Prop where
  size : bytes.length = commandHeaderLength + payload.length
  short : bytes.length ≤ Frame.maxRequest
  command : decode bytes =
    .ok ((⟨exchangeClass, request.instruction.code, p1, p2, payload⟩ : Command), bytes.length)
  request : read? request.instruction payload = some (.ok (request, [])) ↔ request.Delimited

end Request

namespace Command

theorem readsForms : ReadsForms (fun command => command.data.length ≤ maxCommandData) form :=
  read_eq_ok_iff

/-- What is read as a command is the written form of this command. -/
theorem decode_eq_ok_iff {bytes : Bytes} {command : Command} {count : Nat} :
    decode bytes = .ok (command, count) ↔
      count ≤ bytes.length ∧ encode command = .ok (bytes.take count) := by
  rw [encode_eq_ok_iff, readsForms.decode_eq_ok_iff_take]

/-- A command is read from its own written form, all of it. -/
theorem decode_form {command : Command} (hshort : command.data.length ≤ maxCommandData) :
    decode command.form = .ok (command, command.form.length) := by
  rw [decode_eq_ok_iff, List.take_length]
  exact ⟨Nat.le_refl _, encode_eq_form hshort⟩

end Command

namespace Request

/-- What a request with short enough data is made into carries it. -/
theorem carriedBy_form {request : Request} {payload : Bytes} (p1 p2 : UInt8)
    (hpayload : encode request = .ok payload) (hshort : payload.length ≤ maxCommandData) :
    request.CarriedBy p1 p2 payload
      (Command.form ⟨exchangeClass, request.instruction.code, p1, p2, payload⟩) where
  size := Command.length_form _
  short := by
    rw [Command.length_form, Frame.maxRequest]
    exact Nat.add_le_add_left hshort _
  command := Command.decode_form hshort
  request := by
    obtain ⟨hfits, hform⟩ := encode_eq_ok_iff.1 hpayload
    rw [read?_eq_some_iff]
    exact ⟨fun hread => hread.2.1, fun hdelimited => ⟨hfits, hdelimited, hform⟩⟩

/-- A request that is not encoded is not made into a command either, for the same cause. -/
theorem toCommand_of_encode_eq_error {request : Request} {cause : WireError}
    (hencode : encode request = .error cause) (p1 p2 : UInt8) :
    request.toCommand p1 p2 = .error cause := by
  rw [toCommand, hencode]
  rfl

/-- Every request that is encoded in at most 255 bytes, and no other, becomes a command. The command
carries the request, data that are too long are refused with their length, and so is the first field
that does not fit behind its own length. Conversely, what is read as a command at the front of any
byte string is written again as the bytes that were read. -/
theorem carried_whole :
    (∀ (request : Request) (p1 p2 : UInt8),
      ((∃ bytes, request.toCommand p1 p2 = .ok bytes) ↔
        ∃ payload, encode request = .ok payload ∧ payload.length ≤ maxCommandData) ∧
      (∀ payload, encode request = .ok payload →
        (∀ bytes, request.toCommand p1 p2 = .ok bytes →
          request.CarriedBy p1 p2 payload bytes) ∧
        (maxCommandData < payload.length →
          request.toCommand p1 p2 = .error (.elementTooLong payload.length))) ∧
      ∀ field, request.longField? = some field →
        request.toCommand p1 p2 = .error (.elementTooLong field.length)) ∧
    ∀ (bytes : Bytes) (command : Command) (count : Nat),
      decode bytes = .ok (command, count) →
        count ≤ bytes.length ∧ encode command = .ok (bytes.take count) := by
  refine ⟨fun request p1 p2 => ⟨?_, fun payload hpayload => ⟨fun bytes hcommand => ?_, ?_⟩, ?_⟩, ?_⟩
  · simp only [toCommand_eq_ok_iff]
    constructor
    · rintro ⟨bytes, payload, hpayload, hshort, -⟩
      exact ⟨payload, hpayload, hshort⟩
    · rintro ⟨payload, hpayload, hshort⟩
      exact ⟨_, payload, hpayload, hshort, rfl⟩
  · obtain ⟨data, hdata, hshort, rfl⟩ := toCommand_eq_ok_iff.1 hcommand
    rw [hpayload, Except.ok.injEq] at hdata
    subst hdata
    exact carriedBy_form p1 p2 hpayload hshort
  · intro hlong
    exact toCommand_of_long hpayload hlong p1 p2
  · intro field hlong
    exact toCommand_of_encode_eq_error (encode_of_longField hlong) p1 p2
  · intro bytes command count hdecode
    exact Command.decode_eq_ok_iff.1 hdecode

/-- A check with a configuration of one byte, a signature that says its length, and a path. -/
def sampleCheck : AddressCheck :=
  ⟨[0x45], [0x30, 0x01, 0x07], [0x80, 0x2C]⟩

/-- The check is carried and read back. One byte too many in the data or in the path is refused, and
a command with a byte behind it is written again without that byte. -/
theorem carried_whole_check :
    (∃ payload bytes, (checkPayoutAddress sampleCheck).toCommand 0 1 = .ok bytes ∧
      (checkPayoutAddress sampleCheck).CarriedBy 0 1 payload bytes ∧
      read? .checkPayoutAddress payload = some (.ok (checkPayoutAddress sampleCheck, []))) ∧
    (trustedName (List.replicate 256 0)).toCommand 0 1 = .error (.elementTooLong 256) ∧
    (checkRefundAddress { sampleCheck with path := List.replicate 256 0 }).toCommand 0 1 =
      .error (.elementTooLong 256) ∧
    encode (⟨0xE0, 0x04, 0, 0, [0x07]⟩ : Command) = .ok [0xE0, 0x04, 0, 0, 0x01, 0x07] := by
  have hcheck : encode (checkPayoutAddress sampleCheck) =
      .ok (form (checkPayoutAddress sampleCheck)) := encode_eq_ok_iff.2 ⟨by decide, rfl⟩
  have hdata : encode (trustedName (List.replicate 256 0)) = .ok (List.replicate 256 0) :=
    encode_of_payload rfl
  have hread : decode [0xE0, 0x04, 0, 0, 0x01, 0x07, 0x09] =
      .ok ((⟨0xE0, 0x04, 0, 0, [0x07]⟩ : Command), 6) := rfl
  obtain ⟨bytes, hcommand⟩ := ((carried_whole.1 (checkPayoutAddress sampleCheck) 0 1).1).2
    ⟨_, hcheck, by decide⟩
  have hcarried := ((carried_whole.1 _ 0 1).2.1 _ hcheck).1 bytes hcommand
  have hlong := ((carried_whole.1 _ 0 1).2.1 _ hdata).2
    (by rw [List.length_replicate]; decide)
  have hpath := (carried_whole.1
    (checkRefundAddress { sampleCheck with path := List.replicate 256 0 }) 0 1).2.2
    (List.replicate 256 0) (by decide +kernel)
  rw [List.length_replicate] at hlong hpath
  exact ⟨⟨_, bytes, hcommand, hcarried, hcarried.request.2 ⟨[0x07], by decide, rfl⟩⟩, hlong, hpath,
    (carried_whole.2 _ _ _ hread).2⟩

end Request

end Countersign

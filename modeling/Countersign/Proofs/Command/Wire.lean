/-
# Commands between client and device

A client writes a command as a header and its data, and a device takes a byte string as a command
only if nothing is left over. Both directions are stated here, so that what a client has asked for
can be followed to the instruction that the device carries out.
-/

import Countersign.Device
import Countersign.Proofs.Wire.Writing

namespace Countersign

namespace Instruction

/-- No byte but its own stands for an instruction. -/
theorem ofCode?_eq_some_iff {code : UInt8} {instruction : Instruction} :
    ofCode? code = some instruction ↔ code = instruction.code := by
  unfold ofCode?
  constructor
  · intro hfound
    have hcode := List.find?_some hfound
    exact (beq_iff_eq.1 hcode).symm
  · rintro rfl
    cases instruction <;> rfl

/-- The data of a byte string that is, as a whole, a command with this instruction. -/
def dataIn? (instruction : Instruction) (bytes : Bytes) : Option Bytes :=
  match (decodeWhole? bytes : Option Command) with
  | none => none
  | some command =>
    if command.cla = exchangeClass ∧ command.ins = instruction.code then some command.data
    else none

end Instruction

namespace Command

/-- The written form of a command. -/
def form (command : Command) : Bytes :=
  [command.cla, command.ins, command.p1, command.p2] ++ Field.prefixedForm command.data

/-- Behind the first four bytes, the data are an element behind its length. -/
theorem read_cons (cla ins p1 p2 : UInt8) (body : Bytes) :
    read (cla :: ins :: p1 :: p2 :: body) =
      (Field.prefixed body).map fun (data, rest) => (⟨cla, ins, p1, p2, data⟩, rest) := by
  cases body with
  | nil => rfl
  | cons length body =>
    rw [read, Field.prefixed]
    cases Field.run length.toNat body <;> rfl

/-- A command stands at the front of a byte string exactly if its written form does. -/
theorem read_eq_ok_iff {bytes rest : Bytes} {command : Command} :
    read bytes = .ok (command, rest) ↔
      command.data.length ≤ maxCommandData ∧ bytes = command.form ++ rest := by
  constructor
  · intro hread
    match bytes, hread with
    | cla :: ins :: p1 :: p2 :: body, hread =>
      rw [read_cons] at hread
      obtain ⟨⟨data, after⟩, hprefixed, hfound⟩ := map_eq_ok_iff.1 hread
      obtain ⟨hshort, rfl⟩ := Field.prefixed_eq_ok_iff.1 hprefixed
      cases hfound
      exact ⟨hshort, rfl⟩
  · rintro ⟨hshort, rfl⟩
    have hprefixed : Field.prefixed (Field.prefixedForm command.data ++ rest) =
        .ok (command.data, rest) := Field.prefixed_eq_ok_iff.2 ⟨hshort, rfl⟩
    exact (read_cons _ _ _ _ _).trans (map_eq_ok_iff.2 ⟨_, hprefixed, rfl⟩)

theorem length_form (command : Command) :
    command.form.length = commandHeaderLength + command.data.length := by
  rw [form, Field.prefixedForm, List.length_append, List.length_cons, commandHeaderLength]
  simp only [List.length_cons, List.length_nil]
  omega

/-- A command puts its written form, if its data fit one. -/
theorem putsForm {command : Command} (hshort : command.data.length ≤ maxCommandData) :
    PutsForm command command.form := by
  have hsize : command.encodedLength = .ok command.form.length := by
    rw [encodedLength, if_neg (Nat.not_lt.2 hshort), length_form]
  refine ⟨hsize, fun buffer => ?_⟩
  simp only [Encode.write, hsize, bind, Except.bind]
  by_cases hroom : buffer.room.length < command.form.length
  · rw [if_pos hroom, Buffer.put, if_pos hroom]
  · rw [if_neg hroom]
    exact Buffer.put_put _ _ buffer

theorem encode_eq_form {command : Command} (hshort : command.data.length ≤ maxCommandData) :
    encode command = .ok command.form :=
  (putsForm hshort).encode_eq

theorem length_le_of_encodedLength {command : Command} {size : Nat}
    (hsize : Encode.encodedLength command = .ok size) :
    command.data.length ≤ maxCommandData :=
  Nat.not_lt.1 (refuse_else_eq_ok_iff.1 hsize).1

theorem length_le_of_write {command : Command} {buffer written : Buffer}
    (hwrite : Encode.write command buffer = .ok written) :
    command.data.length ≤ maxCommandData := by
  obtain ⟨size, hsize, -⟩ := bind_eq_ok_iff.1 hwrite
  exact length_le_of_encodedLength hsize

/-- Data that do not fit a command are refused with their length. -/
theorem encode_of_long {command : Command} (hlong : maxCommandData < command.data.length) :
    encode command = .error (.elementTooLong command.data.length) :=
  encode_of_encodedLength_eq_error (if_pos hlong)

theorem encode_eq_ok_iff {command : Command} {bytes : Bytes} :
    encode command = .ok bytes ↔
      command.data.length ≤ maxCommandData ∧ bytes = command.form :=
  encode_eq_ok_iff_of_size (fun _ => length_le_of_encodedLength) encode_eq_form

end Command

namespace Request

/-- The data of a request that carries one byte string prepared elsewhere, or nothing at all. -/
def payload? : Request → Option Bytes
  | getVersion | startNewTransaction | getChallenge => some []
  | setPartnerKey payload | checkPartner payload | trustedName payload => some payload
  | checkPayoutAddress _ | checkRefundAddress _ => none

/-- A byte string that was prepared elsewhere is sent as it is. -/
theorem putsForm_of_payload {request : Request} {payload : Bytes}
    (hpayload : request.payload? = some payload) : PutsForm request payload := by
  cases request with
  | getVersion | startNewTransaction | getChallenge =>
    cases hpayload
    exact ⟨rfl, fun buffer => (Buffer.put_nil buffer).symm⟩
  | setPartnerKey _ | checkPartner _ | trustedName _ =>
    cases hpayload
    exact ⟨rfl, fun _ => rfl⟩
  | checkPayoutAddress _ | checkRefundAddress _ => cases hpayload

theorem encode_of_payload {request : Request} {payload : Bytes}
    (hpayload : request.payload? = some payload) : encode request = .ok payload :=
  (putsForm_of_payload hpayload).encode_eq

/-- A request becomes a command exactly if its data fit one. -/
theorem toCommand_eq_ok_iff {request : Request} {p1 p2 : UInt8} {bytes : Bytes} :
    request.toCommand p1 p2 = .ok bytes ↔
      ∃ data, encode request = .ok data ∧ data.length ≤ maxCommandData ∧
        bytes = Command.form ⟨exchangeClass, request.instruction.code, p1, p2, data⟩ := by
  simp only [toCommand, bind_eq_ok_iff, Command.encode_eq_ok_iff]

/-- Data that are too long for a command are refused with their length. -/
theorem toCommand_of_long {request : Request} {data : Bytes} (hdata : encode request = .ok data)
    (hlong : maxCommandData < data.length) (p1 p2 : UInt8) :
    request.toCommand p1 p2 = .error (.elementTooLong data.length) := by
  rw [toCommand, hdata]
  exact Command.encode_of_long hlong

end Request

namespace Device

/-- A device knows a command by its class and its instruction. -/
theorem readCommand_eq_ok_iff {bytes : Bytes} {instruction : Instruction} {command : Command} :
    readCommand bytes = .ok (instruction, command) ↔
      decodeWhole? bytes = some command ∧ command.cla = exchangeClass ∧
        command.ins = instruction.code := by
  rw [← Instruction.ofCode?_eq_some_iff]
  unfold readCommand
  constructor
  · intro hread
    split at hread
    · cases hread
    · next found hwhole =>
      split at hread
      · cases hread
      · next hclass =>
        split at hread
        · cases hread
        · next hfound =>
          cases hread
          exact ⟨hwhole, Classical.not_not.1 hclass, hfound⟩
  · rintro ⟨hwhole, hclass, hfound⟩
    simp only [hwhole, hclass, hfound, ne_eq, not_true, if_false]

/-- A device carries out the instruction of a request, with the parameter and the data that the
client has put into the command. -/
theorem exists_handle_of_toCommand {S : SignatureScheme} {request : Request} {p1 p2 : UInt8}
    {bytes : Bytes} (hcommand : request.toCommand p1 p2 = .ok bytes) (device : Device S)
    (draw : Draw) :
    ∃ data, encode request = .ok data ∧
      device.handle draw bytes = device.perform draw request.instruction p2 data := by
  obtain ⟨data, hdata, hshort, rfl⟩ := Request.toCommand_eq_ok_iff.1 hcommand
  have hread := Command.read_eq_ok_iff.2
    ⟨hshort, (List.append_nil (Command.form ⟨exchangeClass, request.instruction.code, p1, p2,
      data⟩)).symm⟩
  have hknown := readCommand_eq_ok_iff.2 ⟨decodeWhole?_eq_some_iff.2 hread, rfl, rfl⟩
  refine ⟨data, hdata, ?_⟩
  simp only [handle, hknown]

end Device

/-- The data of a byte string are those of the command that a device reads in it. -/
theorem Instruction.dataIn?_eq_some_iff {instruction : Instruction} {bytes data : Bytes} :
    instruction.dataIn? bytes = some data ↔
      ∃ command, Device.readCommand bytes = .ok (instruction, command) ∧ command.data = data := by
  unfold dataIn?
  constructor
  · intro hdata
    split at hdata
    · cases hdata
    · next found hwhole =>
      split at hdata
      · next hknown =>
        cases hdata
        exact ⟨found, Device.readCommand_eq_ok_iff.2 ⟨hwhole, hknown⟩, rfl⟩
      · cases hdata
  · rintro ⟨command, hread, rfl⟩
    obtain ⟨hwhole, hknown⟩ := Device.readCommand_eq_ok_iff.1 hread
    simp only [hwhole, if_pos hknown]

/-- A byte string that a device reads as a command has the data of one instruction alone. -/
theorem Instruction.isSome_dataIn?_iff {instruction other : Instruction} {bytes : Bytes}
    {command : Command} (hread : Device.readCommand bytes = .ok (instruction, command)) :
    (other.dataIn? bytes).isSome ↔ instruction = other := by
  rw [Option.isSome_iff_exists]
  constructor
  · rintro ⟨data, hdata⟩
    obtain ⟨found, hfound, -⟩ := dataIn?_eq_some_iff.1 hdata
    rw [hread] at hfound
    cases hfound
    rfl
  · rintro rfl
    exact ⟨command.data, dataIn?_eq_some_iff.2 ⟨command, hread, rfl⟩⟩

/-- What a device does not read as a command has no data. -/
theorem Instruction.dataIn?_eq_none {instruction : Instruction} {bytes : Bytes} {refusal : Refusal}
    (hread : Device.readCommand bytes = .error refusal) : instruction.dataIn? bytes = none := by
  rw [Option.eq_none_iff_forall_ne_some]
  intro data hdata
  obtain ⟨command, hcommand, -⟩ := dataIn?_eq_some_iff.1 hdata
  rw [hread] at hcommand
  cases hcommand

end Countersign

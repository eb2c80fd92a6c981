/-
# Commands

A short command is a five-byte header, the last byte of which counts the data that follow.
-/

import Countersign.Wire.Codec
import Countersign.Wire.Field

namespace Countersign

/-- The length of a command header: class, instruction, two parameters, data length. -/
def commandHeaderLength : Nat := 5

/-- The most data that one command can carry. -/
def maxCommandData : Nat := 255

/-- A command to the device. -/
structure Command where
  /-- The class byte. -/
  cla : UInt8
  /-- The instruction byte. -/
  ins : UInt8
  /-- The first parameter. -/
  p1 : UInt8
  /-- The second parameter. -/
  p2 : UInt8
  /-- The data of the command. -/
  data : Bytes
  deriving DecidableEq, Repr

namespace Command

/-- The size of a command, if its data fit one. -/
def encodedLength (command : Command) : Except WireError Nat :=
  if maxCommandData < command.data.length then .error (.elementTooLong command.data.length)
  else .ok (commandHeaderLength + command.data.length)

instance : Encode Command where
  encodedLength := encodedLength
  write command buffer := do
    let size ← command.encodedLength
    if buffer.room.length < size then .error .invalidLength
    else
      let buffer ← buffer.put
        [command.cla, command.ins, command.p1, command.p2, UInt8.ofNat command.data.length]
      buffer.put command.data

/-- The command at the front of a byte string, and the bytes after it. -/
def read : Bytes → Except WireError (Command × Bytes)
  | cla :: ins :: p1 :: p2 :: length :: rest => do
    let (data, rest) ← Field.run length.toNat rest
    .ok (⟨cla, ins, p1, p2, data⟩, rest)
  | _ => .error .invalidLength

instance : Decode Command where
  read := read

end Command

end Countersign

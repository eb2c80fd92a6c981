/-
# Writing into memory in place

A buffer that is filled from the front has no places, so nothing can be written outside it. Memory
does: an encoder that is given a slice of it writes to places that it computes, and a place outside
the slice ends the program. Here the encoders are given by the places that they touch, with each
check of the room where it is made and none where it is not, and shown to do to the memory what
filling a buffer does. What is refused there is refused here, and no other place is ever touched.

An element that checks the room itself agrees with its writer on every memory. Places that are
touched without a check need the room to be known before; an encoder that looks at the whole room
once is therefore followed through memory that has room for its form.
-/

import Countersign.Proofs.Tlv.Canonical
import Countersign.Proofs.Wire.Writing

namespace Countersign

/-- Why an encoder that writes into memory stops early. -/
inductive Fault where
  /-- It refuses the value, or the memory for want of room. -/
  | refused (cause : WireError)
  /-- It was about to touch a place outside the memory, and the program ends there. -/
  | outside
  deriving DecidableEq, Repr

/-- An outcome that may refuse, but touches no place outside the memory. -/
def inside {α : Type} (outcome : Except WireError α) : Except Fault α :=
  outcome.mapError Fault.refused

/-- Copies bytes over those from a place on, without asking whether there are as many. -/
def copyTo (place : Nat) (source memory : Bytes) : Except Fault Bytes :=
  if memory.length < place + source.length then .error .outside
  else .ok (memory.take place ++ source ++ memory.drop (place + source.length))

/-- Copies bytes over a range of places, which has to have their length. -/
def copyRange (first last : Nat) (source memory : Bytes) : Except Fault Bytes :=
  if first + source.length ≠ last then .error .outside else copyTo first source memory

/-- An element that is stored at the front of the memory it is given: how many bytes it has taken,
and the memory afterwards. -/
abbrev Element : Type :=
  Bytes → Except Fault (Nat × Bytes)

namespace Element

/-- Bytes as they are. -/
def run (bytes : Bytes) : Element := fun memory =>
  if memory.length < bytes.length then .error (.refused .invalidLength)
  else do
    let memory ← copyTo 0 bytes memory
    .ok (bytes.length, memory)

/-- Bytes behind their length. -/
def prefixed (bytes : Bytes) : Element := fun memory =>
  if maxPrefixed < bytes.length then .error (.refused (.elementTooLong bytes.length))
  else if memory.length < bytes.length + 1 then .error (.refused .invalidLength)
  else do
    let memory ← copyTo 0 [UInt8.ofNat bytes.length] memory
    let memory ← copyTo 1 bytes memory
    .ok (bytes.length + 1, memory)

/-- A number in its minimal DER form, the digits of which are the last of eight. -/
def number (number : UInt64) : Element := fun memory =>
  let size := Der.encodedLength number
  if memory.length < size then .error (.refused .invalidLength)
  else if number < 0x80 then do
    let memory ← copyTo 0 [number.toUInt8] memory
    .ok (1, memory)
  else do
    let width := size - 1
    let memory ← copyTo 0 [0x80 ||| UInt8.ofNat width] memory
    let memory ← copyRange 1 size ((BigEndian.fixed 8 number.toNat).drop (8 - width)) memory
    .ok (size, memory)

end Element

/-- Memory that is being filled, and the place where the next element goes. -/
structure Cursor where
  memory : Bytes
  index : Nat

namespace Cursor

/-- Memory of which nothing is written yet. -/
def start (memory : Bytes) : Cursor :=
  ⟨memory, 0⟩

/-- What an encoder returns: how many bytes it has written, and the memory. -/
def finish (cursor : Cursor) : Nat × Bytes :=
  (cursor.index, cursor.memory)

/-- Hands the memory from the index on to an element. An index behind the end has no such slice. -/
def fill (element : Element) (cursor : Cursor) : Except Fault Cursor :=
  if cursor.memory.length < cursor.index then .error .outside
  else do
    let (count, slice) ← element (cursor.memory.drop cursor.index)
    .ok ⟨cursor.memory.take cursor.index ++ slice, cursor.index + count⟩

/-- Copies bytes to the index, without asking for room. -/
def copy (bytes : Bytes) (cursor : Cursor) : Except Fault Cursor := do
  let memory ← copyTo cursor.index bytes cursor.memory
  .ok ⟨memory, cursor.index + bytes.length⟩

/-- Copies bytes to the index, if there is room for them behind it. -/
def copyWithin (bytes : Bytes) (cursor : Cursor) : Except Fault Cursor :=
  if cursor.memory.length < cursor.index + bytes.length then .error (.refused .invalidLength)
  else cursor.copy bytes

end Cursor

/-- A buffer as memory: what is written comes first, and the next element behind it. -/
def Buffer.cursor (buffer : Buffer) : Cursor :=
  ⟨buffer.content, buffer.written.length⟩

theorem Buffer.index_cursor (buffer : Buffer) : buffer.cursor.index = buffer.written.length := rfl

theorem Buffer.length_memory_cursor (buffer : Buffer) :
    buffer.cursor.memory.length = buffer.written.length + buffer.room.length :=
  List.length_append

/-- The index never leaves the memory. -/
theorem Buffer.index_cursor_le (buffer : Buffer) :
    ¬buffer.cursor.memory.length < buffer.cursor.index := by
  rw [length_memory_cursor, index_cursor]
  omega

/-- What filling a buffer has come to, as an outcome of writing in place. -/
def settled (outcome : Except WireError Buffer) : Except Fault Cursor :=
  inside (outcome.map Buffer.cursor)

@[simp]
theorem settled_ok (buffer : Buffer) : settled (.ok buffer) = .ok buffer.cursor := rfl

/-- Work that goes on in place goes on like the writer, from wherever the writer has come. -/
theorem settled_bind {outcome : Except WireError Buffer} {work : Cursor → Except Fault Cursor}
    {write : Buffer → Except WireError Buffer}
    (hwork : ∀ buffer, outcome = .ok buffer → work buffer.cursor = settled (write buffer)) :
    (settled outcome >>= work) = settled (outcome >>= write) := by
  cases outcome with
  | error cause => rfl
  | ok buffer => exact hwork buffer rfl

/-- Behind a front of this length, what is copied replaces as many bytes. -/
theorem copyTo_append {front source memory : Bytes} {place : Nat} (hplace : front.length = place)
    (hroom : source.length ≤ memory.length) :
    copyTo place source (front ++ memory) =
      .ok (front ++ source ++ memory.drop source.length) := by
  have hinside : ¬(front ++ memory).length < front.length + source.length := by
    rw [List.length_append]
    omega
  rw [← hplace, copyTo, if_neg hinside, List.take_left, ← List.drop_drop, List.drop_left]

/-- At the front, what is copied replaces as many bytes. -/
theorem copyTo_zero {source memory : Bytes} (hroom : source.length ≤ memory.length) :
    copyTo 0 source memory = .ok (source ++ memory.drop source.length) :=
  @copyTo_append [] source memory 0 rfl hroom

/-- An element stores a form at the front of every memory that has room for it. -/
def Element.Stores (element : Element) (form : Bytes) : Prop :=
  ∀ memory, element memory =
    if memory.length < form.length then .error (.refused .invalidLength)
    else .ok (form.length, form ++ memory.drop form.length)

namespace Element

theorem stores_run (bytes : Bytes) : (run bytes).Stores bytes := by
  intro memory
  unfold run
  by_cases hroom : memory.length < bytes.length
  · rw [if_pos hroom, if_pos hroom]
  · rw [if_neg hroom, if_neg hroom, copyTo_zero (Nat.not_lt.1 hroom)]
    rfl

/-- A first byte and the bytes behind it are copied one after the other. -/
theorem exists_copyTo_cons {rest memory : Bytes} (first : UInt8)
    (hroom : rest.length + 1 ≤ memory.length) :
    ∃ next, copyTo 0 [first] memory = .ok next ∧
      copyTo 1 rest next = .ok (first :: rest ++ memory.drop (rest.length + 1)) := by
  cases memory with
  | nil => cases hroom
  | cons replaced memory =>
    have hfirst : [first].length ≤ (replaced :: memory).length := Nat.le_add_left 1 _
    have hrest : rest.length ≤ memory.length := Nat.le_of_succ_le_succ hroom
    exact ⟨first :: memory, copyTo_zero hfirst, copyTo_append (List.length_singleton) hrest⟩

theorem stores_prefixed {bytes : Bytes} (hshort : bytes.length ≤ maxPrefixed) :
    (prefixed bytes).Stores (Field.prefixedForm bytes) := by
  intro memory
  rw [Field.length_prefixedForm, prefixed, if_neg (Nat.not_lt.2 hshort)]
  by_cases hroom : memory.length < bytes.length + 1
  · rw [if_pos hroom, if_pos hroom]
  · obtain ⟨next, hfirst, hrest⟩ :=
      exists_copyTo_cons (UInt8.ofNat bytes.length) (Nat.not_lt.1 hroom)
    simp only [if_neg hroom, hfirst, hrest, bind, Except.bind, Field.prefixedForm]

/-- The digits of a number that are stored behind its first byte are its minimal digits. -/
theorem drop_digits (number : UInt64) :
    (BigEndian.fixed 8 number.toNat).drop (8 - BigEndian.minimalWidth number.toNat) =
      BigEndian.minimal number.toNat := by
  have hsplit := BigEndian.drop_fixed (8 - BigEndian.minimalWidth number.toNat)
    (BigEndian.minimalWidth number.toNat) number.toNat
  rw [Nat.sub_add_cancel (Der.minimalWidth_le number)] at hsplit
  exact hsplit

theorem stores_number (number : UInt64) : (Element.number number).Stores (Der.encode number) := by
  intro memory
  rw [Der.length_encode, Element.number]
  by_cases hroom : memory.length < Der.encodedLength number
  · rw [if_pos hroom, if_pos hroom]
  · rw [if_neg hroom, if_neg hroom]
    rw [Der.encodedLength] at hroom ⊢
    rw [Der.encode]
    by_cases hshort : number < 0x80
    · rw [if_pos hshort] at hroom
      have hfirst : [number.toUInt8].length ≤ memory.length := Nat.not_lt.1 hroom
      simp only [if_pos hshort, copyTo_zero hfirst]
      rfl
    · rw [if_neg hshort, Nat.add_comm, ← BigEndian.length_minimal] at hroom
      obtain ⟨next, hfirst, hrest⟩ := exists_copyTo_cons
        (0x80 ||| UInt8.ofNat (BigEndian.minimalWidth number.toNat)) (Nat.not_lt.1 hroom)
      have hrange : copyRange 1 (1 + BigEndian.minimalWidth number.toNat)
          (BigEndian.minimal number.toNat) next =
            copyTo 1 (BigEndian.minimal number.toNat) next := by
        rw [copyRange, BigEndian.length_minimal]
        exact if_neg (Classical.not_not.2 rfl)
      rw [BigEndian.length_minimal, Nat.add_comm] at hrest
      simp only [if_neg hshort, Nat.add_sub_cancel_left, drop_digits, hfirst, hrange, hrest, bind,
        Except.bind, BigEndian.length_minimal]

end Element

/-- An element that stores a form fills memory as a buffer is filled with the form. -/
theorem Element.Stores.fill_cursor {element : Element} {form : Bytes}
    (hstores : element.Stores form) (buffer : Buffer) :
    buffer.cursor.fill element = settled (buffer.put form) := by
  rw [Cursor.fill, if_neg buffer.index_cursor_le]
  simp only [Buffer.cursor, Buffer.content, List.drop_left, List.take_left, hstores buffer.room,
    Buffer.put]
  by_cases hroom : buffer.room.length < form.length
  · rw [if_pos hroom, if_pos hroom]
    rfl
  · rw [if_neg hroom, if_neg hroom, settled_ok, Buffer.cursor, Buffer.content, List.append_assoc,
      List.length_append]
    rfl

/-- Where there is room, copying to the index fills memory as a buffer is filled. -/
theorem Cursor.copy_cursor {bytes : Bytes} {buffer : Buffer}
    (hroom : bytes.length ≤ buffer.room.length) :
    buffer.cursor.copy bytes = settled (buffer.put bytes) := by
  rw [copy, Buffer.cursor, Buffer.content, copyTo_append rfl hroom, Buffer.put,
    if_neg (Nat.not_lt.2 hroom), settled_ok, Buffer.cursor, Buffer.content, List.length_append]
  rfl

-- Without room, the copy is not refused: it leaves the memory.
example : (Cursor.start []).copy [0x07] = .error .outside := rfl

/-- Work in place does on all memory what a writer does on the buffer in it. -/
def Agrees (work : Cursor → Except Fault Cursor) (write : Buffer → Except WireError Buffer) :
    Prop :=
  ∀ buffer : Buffer, work buffer.cursor = settled (write buffer)

namespace Agrees

theorem run (bytes : Bytes) : Agrees (Cursor.fill (Element.run bytes)) (Buffer.put bytes) :=
  (Element.stores_run bytes).fill_cursor

theorem number (number : UInt64) :
    Agrees (Cursor.fill (Element.number number)) (Der.write number) := by
  intro buffer
  rw [(Element.stores_number number).fill_cursor, Der.write_eq_put]

/-- An element that is too long is refused before the memory is looked at. -/
theorem prefixed (bytes : Bytes) :
    Agrees (Cursor.fill (Element.prefixed bytes)) (Buffer.putPrefixed bytes) := by
  intro buffer
  by_cases hlong : maxPrefixed < bytes.length
  · rw [Cursor.fill, if_neg buffer.index_cursor_le, Element.prefixed, if_pos hlong,
      Buffer.putPrefixed, if_pos hlong]
    rfl
  · rw [Buffer.putPrefixed_of_length_le (Nat.not_lt.1 hlong),
      (Element.stores_prefixed (Nat.not_lt.1 hlong)).fill_cursor]

theorem copyWithin (bytes : Bytes) : Agrees (Cursor.copyWithin bytes) (Buffer.put bytes) := by
  intro buffer
  have hroom : buffer.cursor.memory.length < buffer.cursor.index + bytes.length ↔
      buffer.room.length < bytes.length := by
    rw [Buffer.length_memory_cursor, Buffer.index_cursor]
    omega
  by_cases hshort : buffer.room.length < bytes.length
  · rw [Cursor.copyWithin, if_pos (hroom.2 hshort), Buffer.put, if_pos hshort]
    rfl
  · rw [Cursor.copyWithin, if_neg (mt hroom.1 hshort), Cursor.copy_cursor (Nat.not_lt.1 hshort)]

variable {first second work : Cursor → Except Fault Cursor}
variable {write next : Buffer → Except WireError Buffer}

/-- One after the other, two pieces of work do what their writers do. -/
theorem bind (hfirst : Agrees first write) (hsecond : Agrees second next) :
    Agrees (fun cursor => first cursor >>= second) (fun buffer => write buffer >>= next) := by
  intro buffer
  simp only [hfirst buffer]
  exact settled_bind fun later _ => hsecond later

/-- A check that comes before both and touches no memory changes nothing about that. -/
theorem check (outcome : Except WireError Unit) (hwork : Agrees work write) :
    Agrees (fun cursor => inside outcome >>= fun _ => work cursor)
      (fun buffer => outcome >>= fun _ => write buffer) := by
  intro buffer
  cases outcome with
  | error cause => rfl
  | ok checked => exact hwork buffer

end Agrees

/-- Work that writes a form wherever there is room for it. -/
def FillsRoom (work : Cursor → Except Fault Cursor) (form : Bytes) : Prop :=
  ∀ buffer : Buffer, form.length ≤ buffer.room.length →
    work buffer.cursor = settled (buffer.put form)

namespace FillsRoom

theorem copy (bytes : Bytes) : FillsRoom (Cursor.copy bytes) bytes :=
  fun _ hroom => Cursor.copy_cursor hroom

theorem run (bytes : Bytes) : FillsRoom (Cursor.fill (Element.run bytes)) bytes :=
  fun buffer _ => Agrees.run bytes buffer

theorem prefixed {bytes : Bytes} (hshort : bytes.length ≤ maxPrefixed) :
    FillsRoom (Cursor.fill (Element.prefixed bytes)) (Field.prefixedForm bytes) :=
  fun buffer _ => (Element.stores_prefixed hshort).fill_cursor buffer

theorem nothing : FillsRoom Except.ok [] := by
  intro buffer _
  rw [Buffer.put_nil, settled_ok]

/-- One after the other, two pieces of work write both forms. -/
theorem bind {first second : Cursor → Except Fault Cursor} {front back : Bytes}
    (hfirst : FillsRoom first front) (hsecond : FillsRoom second back) :
    FillsRoom (fun cursor => first cursor >>= second) (front ++ back) := by
  intro buffer hroom
  rw [List.length_append] at hroom
  rw [← Buffer.put_put]
  simp only [hfirst buffer (Nat.le_of_add_right_le hroom)]
  refine settled_bind fun next hput => hsecond next ?_
  obtain ⟨-, rfl⟩ := Buffer.put_eq_ok_iff.1 hput
  rw [List.length_drop]
  omega

end FillsRoom

/-- Values with an encoder that works on memory in place. -/
class EncodeInPlace (α : Type) where
  /-- Writes the value, given memory with the index at its front. -/
  fill : α → Cursor → Except Fault Cursor

variable {α : Type}

/-- Writes a value into the given memory in place: the number of bytes written, and the memory. -/
def storeInto [EncodeInPlace α] (value : α) (memory : Bytes) : Except Fault (Nat × Bytes) :=
  (EncodeInPlace.fill value (Cursor.start memory)).map Cursor.finish

/-- An encoder does in place what its writer does with an untouched buffer. -/
def WritesInside [Encode α] [EncodeInPlace α] (value : α) : Prop :=
  ∀ memory, EncodeInPlace.fill value (Buffer.untouched memory).cursor =
    settled (Encode.write value (Buffer.untouched memory))

/-- What does so is encoded in place as it is encoded into a buffer. -/
theorem WritesInside.storeInto_eq [Encode α] [EncodeInPlace α] {value : α}
    (hinside : WritesInside value) (memory : Bytes) :
    storeInto value memory = inside (encodeInto value memory) := by
  have hstart : Cursor.start memory = (Buffer.untouched memory).cursor := rfl
  rw [storeInto, hstart, hinside memory, encodeInto]
  cases Encode.write value (Buffer.untouched memory) <;> rfl

/-- What may only be refused has not left the memory. -/
theorem inside_ne_outside (outcome : Except WireError α) : inside outcome ≠ .error .outside := by
  intro houtside
  cases outcome <;> cases houtside

end Countersign

/-
# Reading from a stream into memory

A client has memory for as many bytes as it waits for. Each read gets the part of it that is not
filled yet, and the place moves behind what the read has found. A read that found more than it was
asked for would leave the memory, and one that found nothing would be repeated for ever; neither
happens, since no read finds more than there is room for, and finding nothing ends the loop. So the
loop is over after one round more than there are bytes to wait for.

A client looks at the length and at the status of a response by their places in what it has read.
It is enough for this that the memory has the size that was asked for.
-/

import Countersign.Proofs.Stream.Movement
import Countersign.Proofs.Wire.Places
import Mathlib.Data.List.Basic

namespace Countersign

namespace Stream

/-- Reads into memory from a place on until `expected` bytes are there, or until something else
happens. -/
def fillInPlace (deadline : Option Nat) (expected : Nat) :
    (limit : Nat) → Bytes → Nat → Stream → InPlace WireError (Except Error Bytes × Stream)
  | 0, _, _, _ => endBy .endless
  | limit + 1, memory, received, stream =>
    if received < expected then do
      let room ← sliceFrom received memory
      match stream.read (room.length - 1) deadline with
      | (.bytes first rest, stream) => do
        let memory ← storing (copyTo received (first :: rest) memory)
        let received ← plus received (first :: rest).length
        fillInPlace deadline expected limit memory received stream
      | (.closed, stream) => .ok (.error (.connectionClosed expected received), stream)
      | (.fault fault, stream) => .ok (.error (.io fault), stream)
      | (.silence, stream) => .ok (.error .requestTimeout, stream)
    else .ok (.ok memory, stream)

/-- Reads exactly `count` bytes into memory of this size. -/
def readExactlyInPlace (deadline : Option Nat) (count : Nat) (stream : Stream) :
    InPlace WireError (Except Error Bytes × Stream) :=
  fillInPlace deadline count (count + 1) (List.replicate count 0) 0 stream

/-- The bytes that a read finds are no more than it asks for. -/
theorem length_le_of_read {want : Nat} {deadline : Option Nat} {stream after : Stream}
    {first : UInt8} {rest : Bytes}
    (hread : stream.read want deadline = (.bytes first rest, after)) :
    (first :: rest).length ≤ want + 1 := by
  have hfound : (await want deadline stream.clock stream.incoming).1 = .bytes first rest :=
    congrArg Prod.fst hread
  have hlength := length_found_await_le want deadline stream.clock stream.incoming
  rwa [hfound] at hlength

/-- Memory that is filled up to the place, with room for what is missing, is filled as the bytes are
read one after the other. -/
theorem fillInPlace_eq {deadline : Option Nat} {expected limit : Nat} {received room : Bytes}
    {stream : Stream} (hexpected : received.length + room.length = expected)
    (hsize : expected < UInt64.size) (hlimit : room.length < limit) :
    fillInPlace deadline expected limit (received ++ room) received.length stream =
      .ok (stream.readMore deadline expected received) := by
  induction limit generalizing received room stream with
  | zero => exact absurd hlimit (Nat.not_lt_zero _)
  | succ limit ih =>
    rw [fillInPlace, readMore]
    by_cases hmore : received.length < expected
    · have hplace : received.length ≤ (received ++ room).length := by simp
      have hwant : expected - received.length - 1 = room.length - 1 := by omega
      rw [if_pos hmore, if_pos hmore, sliceFrom_of_le hplace, List.drop_left, hwant]
      simp only [bind, Except.bind]
      rcases hread : stream.read (room.length - 1) deadline with ⟨found, after⟩
      cases found with
      | closed | fault fault | silence => rfl
      | bytes first rest =>
        -- What is found fits the room, so the copy stays inside, and it takes at least one byte of
        -- the room, so the rounds that are left are still enough.
        have hfits : (first :: rest).length ≤ room.length := by
          have hle := length_le_of_read hread
          omega
        have hleft : (room.drop (first :: rest).length).length =
            room.length - (first :: rest).length := List.length_drop
        have hsome : 0 < (first :: rest).length := Nat.succ_pos _
        have hplus : received.length + (first :: rest).length < UInt64.size := by omega
        have hfilled : (received ++ first :: rest).length =
            received.length + (first :: rest).length := List.length_append
        simp only [copyTo_append rfl hfits, storing, plus_of_lt hplus, ← hfilled]
        exact ih (by omega) (by omega)
    · have hroom : room = [] := by
        rw [← List.length_eq_zero_iff]
        omega
      rw [if_neg hmore, if_neg hmore, hroom, List.append_nil]

theorem readExactlyInPlace_eq {count : Nat} (deadline : Option Nat) (stream : Stream)
    (hsize : count < UInt64.size) :
    stream.readExactlyInPlace deadline count = .ok (stream.readExactly deadline count) := by
  have hlength : (List.replicate count (0 : UInt8)).length = count := List.length_replicate
  refine @fillInPlace_eq deadline count (count + 1) [] (List.replicate count 0) stream ?_ hsize ?_
  · rw [hlength, List.length_nil, Nat.zero_add]
  · rw [hlength]
    exact Nat.lt_succ_self count

/-- What is read has the size that was asked for. -/
theorem length_of_readExactly {deadline : Option Nat} {count : Nat} {stream after : Stream}
    {bytes : Bytes} (hread : stream.readExactly deadline count = (.ok bytes, after)) :
    bytes.length = count := by
  have hreaches := reaches_readExactly deadline count stream
  rw [hread] at hreaches
  cases hreaches with
  | reached hmoves hgoal => exact hgoal.2

end Stream

namespace Frame

/-- Reads the rest of a response by the places of its data and of its status. -/
def readResponseBodyInPlace (deadline : Option Nat) (length : Nat) (stream : Stream) :
    InPlace WireError (Except Error Response × Stream) := do
  let size ← plus length 2
  match ← stream.readExactlyInPlace deadline size with
  | (.error failure, stream) => .ok (.error failure, stream)
  | (.ok body, stream) =>
    let high ← byteAt length body
    let place ← plus length 1
    let low ← byteAt place body
    .ok (.ok ⟨body.take length, UInt16.ofNat (BigEndian.value [high, low])⟩, stream)

/-- Reads a framed response by the places of its length, its data and its status. -/
def readResponseInPlace (deadline : Option Nat) (stream : Stream) :
    InPlace WireError (Except Error Response × Stream) := do
  match ← stream.readExactlyInPlace deadline headerLength with
  | (.error failure, stream) => .ok (.error failure, stream)
  | (.ok header, stream) =>
    let first ← byteAt 0 header
    let second ← byteAt 1 header
    let third ← byteAt 2 header
    let fourth ← byteAt 3 header
    let length := BigEndian.value [first, second, third, fourth]
    if maxResponseData < length then .ok (.error .unexpectedResponse, stream)
    else readResponseBodyInPlace deadline length stream

/-- Two bytes stand behind the data in what is read of a response. -/
theorem readResponseBodyInPlace_eq {length : Nat} (deadline : Option Nat) (stream : Stream)
    (hlength : length ≤ maxResponseData) :
    readResponseBodyInPlace deadline length stream =
      .ok (readResponseBody deadline length stream) := by
  have hmax : maxResponseData + 2 < UInt64.size := by decide
  have hplus : length + 2 < UInt64.size := by omega
  have hnext : length + 1 < UInt64.size := by omega
  unfold readResponseBodyInPlace readResponseBody
  simp only [plus_of_lt hplus, plus_of_lt hnext, Stream.readExactlyInPlace_eq deadline stream hplus,
    bind, Except.bind]
  rcases hread : stream.readExactly deadline (length + 2) with ⟨found, after⟩
  cases found with
  | error failure => rfl
  | ok body =>
    have hbody := Stream.length_of_readExactly hread
    have hdrop : (body.drop length).length = 2 := by
      rw [List.length_drop]
      omega
    obtain ⟨high, low, hstatus⟩ := List.length_eq_two.1 hdrop
    have hstands : StandsAt body length [high, low] := ⟨by omega, hstatus⟩
    have hhigh : body[length]? = some high := hstands.getElem?_add 0
    have hlow : body[length + 1]? = some low := hstands.getElem?_add 1
    simp only [byteAt_of_getElem? hhigh, byteAt_of_getElem? hlow, hstatus]

/-- A response is read by its places as it is read from the front, whatever the stream brings. -/
theorem readResponseInPlace_eq (deadline : Option Nat) (stream : Stream) :
    readResponseInPlace deadline stream = .ok (readResponse deadline stream) := by
  have hsize : headerLength < UInt64.size := by decide
  unfold readResponseInPlace readResponse
  simp only [Stream.readExactlyInPlace_eq deadline stream hsize, bind, Except.bind]
  rcases hread : stream.readExactly deadline headerLength with ⟨found, after⟩
  cases found with
  | error failure => rfl
  | ok header =>
    obtain ⟨first, second, third, fourth, rfl⟩ :=
      List.length_eq_four.1 (Stream.length_of_readExactly hread)
    simp only [byteAt, List.getElem?_cons_zero, List.getElem?_cons_succ]
    by_cases hlong : maxResponseData < BigEndian.value [first, second, third, fourth]
    · rw [if_pos hlong, if_pos hlong]
    · rw [if_neg hlong, if_neg hlong]
      exact readResponseBodyInPlace_eq deadline after (Nat.not_lt.1 hlong)

end Frame

end Countersign

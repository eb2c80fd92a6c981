/-
# Frames on a stream

Whoever reads a framed response takes the frame of what was read and nothing else: the bytes on
the stream are the only form that the response has, wherever the stream has cut it.
-/

import Countersign.Proofs.Bytes.BigEndian
import Countersign.Proofs.Stream.Arrival

namespace Countersign.Frame

open BigEndian

/-- A command has a frame exactly if the header can hold its length. -/
theorem ofRequest_eq_ok_iff (command frame : Bytes) :
    ofRequest command = .ok frame ↔
      command.length < capacity headerLength ∧
        fixed headerLength command.length ++ command = frame := by
  unfold ofRequest
  split
  · next hfits =>
    rw [Except.ok.injEq]
    exact ⟨fun hframe => ⟨hfits, hframe⟩, fun hframe => hframe.2⟩
  · next hlong =>
    constructor
    · intro hframe
      cases hframe
    · intro hframe
      exact absurd hframe.1 hlong

/-- The status word that two bytes stand for is written as these two bytes. -/
theorem fixed_status (bytes : Bytes) (hlength : bytes.length = 2) :
    fixed 2 (UInt16.ofNat (value bytes)).toNat = bytes := by
  have hlt := value_lt_capacity bytes
  rw [hlength, show capacity 2 = 2 ^ 16 from rfl] at hlt
  rw [UInt16.toNat_ofNat', Nat.mod_eq_of_lt hlt, ← hlength, fixed_value]

/-- What is left of a response after its header. -/
theorem reaches_readResponseBody (deadline : Option Nat) (length : Nat) (stream : Stream) :
    stream.Reaches []
      (fun response taken => response.data.length = length ∧
        taken = response.data ++ fixed 2 response.status.toNat)
      (readResponseBody deadline length stream) := by
  have hbody := Stream.reaches_readExactly deadline (length + 2) stream
  unfold readResponseBody
  generalize stream.readExactly deadline (length + 2) = outcome at hbody
  cases hbody with
  | broken hmoves hput hloses => exact .broken hmoves hput hloses
  | @reached body taken after hmoves hgoal =>
    obtain ⟨rfl, hlength⟩ := hgoal
    refine .reached hmoves ⟨?_, ?_⟩
    · rw [List.length_take]
      omega
    · rw [fixed_status (body.drop length) (by rw [List.length_drop]; omega),
        List.take_append_drop]

/-- Reading a response takes the frame of the response that is read, and puts nothing on the
stream. -/
theorem reaches_readResponse (deadline : Option Nat) (stream : Stream) :
    stream.Reaches []
      (fun response taken => response.data.length ≤ maxResponseData ∧ taken = ofResponse response)
      (readResponse deadline stream) := by
  have hheader := Stream.reaches_readExactly deadline headerLength stream
  unfold readResponse
  generalize stream.readExactly deadline headerLength = outcome at hheader
  cases hheader with
  | broken hmoves hput hloses => exact .broken hmoves hput hloses
  | @reached header taken middle hmoves hgoal =>
    obtain ⟨rfl, hwidth⟩ := hgoal
    by_cases hlong : maxResponseData < value header
    · simp only [hlong, if_true]
      exact .broken hmoves List.prefix_rfl .unexpectedResponse
    · simp only [hlong, if_false]
      have hbody := reaches_readResponseBody deadline (value header) middle
      refine Stream.Reaches.after hmoves hbody ?_
      rintro response rest ⟨hlength, rfl⟩
      have hwritten : fixed headerLength response.data.length = header := by
        rw [hlength, ← hwidth, fixed_value]
      refine ⟨by omega, ?_⟩
      rw [ofResponse, hwritten, List.append_assoc]

/-- The frame of a response that arrives in time is read as this response. -/
theorem readResponse_of_arrives {deadline : Option Nat} {wait : Nat} {response : Response}
    {rest : Bytes} {stream : Stream}
    (harrives : Stream.Arrives stream.incoming (ofResponse response ++ rest) wait)
    (hbound : response.data.length ≤ maxResponseData)
    (htime : ∀ limit ∈ deadline, stream.clock + wait ≤ limit) :
    ∃ clock incoming wait',
      readResponse deadline stream = (.ok response, { stream with clock, incoming }) ∧
        Stream.Arrives incoming rest wait' ∧ clock + wait' = stream.clock + wait := by
  have hcapacity : response.data.length < capacity headerLength :=
    Nat.lt_of_le_of_lt hbound (by decide)
  have hword : value (fixed 2 response.status.toNat) = response.status.toNat :=
    value_fixed_of_lt (show _ < capacity 2 from response.status.toNat_lt)
  rw [ofResponse, List.append_assoc, List.append_assoc] at harrives
  obtain ⟨clock, incoming, wait', hheader, harrives, hclock⟩ :=
    Stream.readExactly_of_arrives harrives htime
  have htime' : ∀ limit ∈ deadline, clock + wait' ≤ limit := by
    rw [hclock]
    exact htime
  have hbody : Stream.Arrives { stream with clock, incoming }.incoming
      ((response.data ++ fixed 2 response.status.toNat) ++ rest) wait' := by
    rw [List.append_assoc]
    exact harrives
  obtain ⟨clock', incoming', wait'', hread, hrest, hclock'⟩ :=
    Stream.readExactly_of_arrives hbody htime'
  rw [length_fixed] at hheader
  rw [List.length_append, length_fixed] at hread
  refine ⟨clock', incoming', wait'', ?_, hrest, hclock'.trans hclock⟩
  rw [readResponse, hheader]
  simp only [value_fixed_of_lt hcapacity, Nat.not_lt.2 hbound, if_false, readResponseBody, hread,
    List.take_left, List.drop_left, hword, UInt16.ofNat_toNat]

end Countersign.Frame

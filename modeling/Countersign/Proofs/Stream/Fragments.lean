/-
# Reading, however the bytes are cut

What a reader gets from a stream depends on two things alone: the bytes that come before the stream
first ends, and how it ends. A stream ends where a read finds nothing, finds the stream closed or
fails. Into how many pieces the bytes are cut, and how long the peer pauses between them, makes no
difference, nor does it matter what the peer does after the end.

So a reader that waits for some bytes gets the first ones of that row and leaves the others on the
stream, or learns how many there were. A reader of responses takes one frame at a time and nothing
behind it. Readers have no deadline here: how an exchange is cut short by its deadline is not the
subject.
-/

import Countersign.Proofs.Command.Response
import Countersign.Proofs.Stream.Framing

namespace Countersign

namespace Stream

/-- The bytes that events bring before the stream first ends. -/
def untilEnd : List PeerEvent → Bytes
  | .data (first :: rest) :: later => first :: rest ++ untilEnd later
  | .pause _ :: later => untilEnd later
  | .data [] :: _ | .fault _ :: _ | .close :: _ | [] => []

/-- The events from the first end of the stream on. There are none if it stays open. -/
def fromEnd : List PeerEvent → List PeerEvent
  | .data (_ :: _) :: later | .pause _ :: later => fromEnd later
  | .data [] :: later => .data [] :: later
  | .fault fault :: later => .fault fault :: later
  | .close :: later => .close :: later
  | [] => []

/-- The second stream is the first one, but for the time and for what the peer is still going to
do. -/
def OnlyRead (before after : Stream) : Prop :=
  { after with clock := before.clock, incoming := before.incoming } = before

/-- The second stream is the first one after reading, with these bytes left before its end. -/
structure LeavesUnread (before : Stream) (unread : Bytes) (after : Stream) : Prop where
  unread : untilEnd after.incoming = unread
  ending : fromEnd after.incoming = fromEnd before.incoming
  onlyRead : before.OnlyRead after

/-- What a reader that waits for more learns at the end of a stream, and what the peer is going to
do after that. A closed stream stays closed. -/
inductive Ends (expected received : Nat) : List PeerEvent → Error → List PeerEvent → Prop
  | nothingRead (later : List PeerEvent) :
      Ends expected received (.data [] :: later) (.connectionClosed expected received) later
  | closed (later : List PeerEvent) :
      Ends expected received (.close :: later) (.connectionClosed expected received)
        (.close :: later)
  | failed (fault : IoFault) (later : List PeerEvent) :
      Ends expected received (.fault fault :: later) (.io fault) later

/-- Reading comes to the end of the stream when only so many of the expected bytes are there. -/
def RunsOut {α : Type} (stream : Stream) (expected received : Nat)
    (result : Except Error α × Stream) : Prop :=
  ∃ failure after, result = (.error failure, after) ∧
    Ends expected received (fromEnd stream.incoming) failure after.incoming ∧
    stream.OnlyRead after

theorem OnlyRead.trans {before middle after : Stream} (hfirst : before.OnlyRead middle)
    (hsecond : middle.OnlyRead after) : before.OnlyRead after := by
  unfold OnlyRead at hfirst hsecond ⊢
  rw [← hfirst, ← hsecond]

theorem LeavesUnread.refl (stream : Stream) :
    stream.LeavesUnread (untilEnd stream.incoming) stream :=
  ⟨rfl, rfl, rfl⟩

theorem LeavesUnread.trans {before middle after : Stream} {unread unread' : Bytes}
    (hfirst : before.LeavesUnread unread middle) (hsecond : middle.LeavesUnread unread' after) :
    before.LeavesUnread unread' after where
  unread := hsecond.unread
  ending := hsecond.ending.trans hfirst.ending
  onlyRead := hfirst.onlyRead.trans hsecond.onlyRead

/-- A stream ends for a reader as it would have ended before some bytes were read from it. -/
theorem LeavesUnread.runsOut {α : Type} {before middle : Stream} {unread : Bytes}
    {expected received : Nat} {result : Except Error α × Stream}
    (hleaves : before.LeavesUnread unread middle)
    (hruns : middle.RunsOut expected received result) :
    before.RunsOut expected received result := by
  obtain ⟨failure, after, hresult, hends, honly⟩ := hruns
  rw [hleaves.ending] at hends
  exact ⟨failure, after, hresult, hends, hleaves.onlyRead.trans honly⟩

theorem untilEnd_keepUnread (unread : Bytes) (later : List PeerEvent) :
    untilEnd (keepUnread unread later) = unread ++ untilEnd later := by
  cases unread with
  | nil => rfl
  | cons first rest => rfl

theorem fromEnd_keepUnread (unread : Bytes) (later : List PeerEvent) :
    fromEnd (keepUnread unread later) = fromEnd later := by
  cases unread with
  | nil => rfl
  | cons first rest => rfl

/-- While bytes come before the end, a read finds some of them and leaves the others. -/
theorem await_of_untilEnd_ne_nil (want clock : Nat) {events : List PeerEvent}
    (hsome : untilEnd events ≠ []) :
    ∃ first rest clock' later, await want none clock events = (.bytes first rest, clock', later) ∧
      untilEnd events = first :: rest ++ untilEnd later ∧ fromEnd later = fromEnd events ∧
      rest.length ≤ want := by
  induction events generalizing clock with
  | nil => exact absurd rfl hsome
  | cons event later ih =>
    cases event with
    | fault fault => exact absurd rfl hsome
    | close => exact absurd rfl hsome
    | pause length => exact ih (clock + length) hsome
    | data bytes =>
      cases bytes with
      | nil => exact absurd rfl hsome
      | cons first rest =>
        refine ⟨first, rest.take want, clock, _, rfl, ?_, fromEnd_keepUnread _ _, ?_⟩
        · rw [untilEnd_keepUnread, untilEnd, List.cons_append, List.cons_append,
            ← List.append_assoc, List.take_append_drop]
        · rw [List.length_take]
          exact Nat.min_le_left _ _

/-- Once no bytes come before the end, a read finds the end. -/
theorem await_of_untilEnd_eq_nil (want clock : Nat) {events : List PeerEvent}
    (hnone : untilEnd events = []) :
    ∃ clock', await want none clock events = await want none clock' (fromEnd events) := by
  induction events generalizing clock with
  | nil => exact ⟨clock, rfl⟩
  | cons event later ih =>
    cases event with
    | fault fault => exact ⟨clock, rfl⟩
    | close => exact ⟨clock, rfl⟩
    | pause length => exact ih (clock + length) hnone
    | data bytes =>
      cases bytes with
      | nil => exact ⟨clock, rfl⟩
      | cons first rest => cases hnone

theorem read_of_untilEnd_ne_nil (want : Nat) {stream : Stream}
    (hsome : untilEnd stream.incoming ≠ []) :
    ∃ first rest after, stream.read want none = (.bytes first rest, after) ∧
      untilEnd stream.incoming = first :: rest ++ untilEnd after.incoming ∧
      stream.LeavesUnread (untilEnd after.incoming) after ∧ rest.length ≤ want := by
  obtain ⟨first, rest, clock, later, hawait, hbytes, hending, hlength⟩ :=
    await_of_untilEnd_ne_nil want stream.clock hsome
  refine ⟨first, rest, { stream with clock, incoming := later }, ?_, hbytes, ⟨rfl, hending, rfl⟩,
    hlength⟩
  rw [read, hawait]

/-- A reader that misses some bytes takes as many of them as come before the end, in pieces of
whatever size, and no other ones. -/
theorem exists_readMore_eq {expected missing : Nat} {received : Bytes} {stream : Stream}
    (hmissing : received.length + missing = expected) :
    ∃ middle, stream.readMore none expected received =
        middle.readMore none expected (received ++ (untilEnd stream.incoming).take missing) ∧
      stream.LeavesUnread ((untilEnd stream.incoming).drop missing) middle := by
  induction missing using Nat.strongRecOn generalizing received stream with
  | ind missing ih =>
    by_cases hdone : missing = 0 ∨ untilEnd stream.incoming = []
    · have htake : (untilEnd stream.incoming).take missing = [] :=
        List.take_eq_nil_iff.2 hdone
      have hdrop : (untilEnd stream.incoming).drop missing = untilEnd stream.incoming := by
        rcases hdone with rfl | hnone
        · exact List.drop_zero
        · rw [hnone, List.drop_nil]
      rw [htake, hdrop, List.append_nil]
      exact ⟨stream, rfl, .refl stream⟩
    · obtain ⟨hmore, hsome⟩ := not_or.1 hdone
      obtain ⟨first, found, next, hread, hsplit, hleaves, hlength⟩ :=
        read_of_untilEnd_ne_nil (expected - received.length - 1) hsome
      -- No more is found than is missing, since no more was asked for.
      obtain ⟨left, hleft⟩ : ∃ left, missing = (first :: found).length + left := by
        apply Nat.exists_eq_add_of_le
        rw [List.length_cons]
        omega
      have hfewer : (received ++ first :: found).length + left = expected := by
        rw [List.length_append]
        omega
      obtain ⟨middle, hmiddle, hrest⟩ :=
        @ih left (by rw [hleft, List.length_cons]; omega) _ next hfewer
      refine ⟨middle, ?_, ?_⟩
      · rw [hsplit, hleft, List.take_length_add_append, ← List.append_assoc, ← hmiddle, readMore,
          if_pos (by omega), hread]
      · rw [hsplit, hleft, List.drop_length_add_append]
        exact hleaves.trans hrest

/-- Every end of a stream is one of these. -/
theorem exists_ends (expected received : Nat) {events : List PeerEvent}
    (hends : fromEnd events ≠ []) :
    ∃ failure later, Ends expected received (fromEnd events) failure later := by
  induction events with
  | nil => exact absurd rfl hends
  | cons event later ih =>
    cases event with
    | fault fault => exact ⟨_, _, .failed fault later⟩
    | close => exact ⟨_, _, .closed later⟩
    | pause length => exact ih hends
    | data bytes =>
      cases bytes with
      | nil => exact ⟨_, _, .nothingRead later⟩
      | cons first rest => exact ih hends

/-- A reader that misses something where the stream ends learns how much it has got. -/
theorem readMore_runsOut {expected : Nat} {received : Bytes} {stream : Stream}
    (hmisses : received.length < expected) (hnone : untilEnd stream.incoming = [])
    (hends : fromEnd stream.incoming ≠ []) :
    stream.RunsOut expected received.length (stream.readMore none expected received) := by
  obtain ⟨clock, hawait⟩ :=
    await_of_untilEnd_eq_nil (expected - received.length - 1) stream.clock hnone
  obtain ⟨failure, later, hend⟩ := exists_ends expected received.length hends
  rw [RunsOut, readMore, if_pos hmisses, read, hawait]
  generalize fromEnd stream.incoming = events at hend
  cases hend with
  | nothingRead => exact ⟨_, _, rfl, .nothingRead later, rfl⟩
  | closed later => exact ⟨_, _, rfl, .closed later, rfl⟩
  | failed fault => exact ⟨_, _, rfl, .failed fault later, rfl⟩

/-- A reader gets the bytes that it waits for, if they come before the end. -/
theorem exists_readExactly_eq_ok {count : Nat} {stream : Stream}
    (henough : count ≤ (untilEnd stream.incoming).length) :
    ∃ after, stream.readExactly none count = (.ok ((untilEnd stream.incoming).take count), after) ∧
      stream.LeavesUnread ((untilEnd stream.incoming).drop count) after := by
  obtain ⟨after, hread, hleaves⟩ :=
    @exists_readMore_eq count count [] stream (Nat.zero_add count)
  have hfull : ¬((untilEnd stream.incoming).take count).length < count := by
    rw [List.length_take]
    omega
  refine ⟨after, ?_, hleaves⟩
  rw [readExactly, hread, List.nil_append, readMore, if_neg hfull]

/-- A reader that waits for more bytes than come before the end learns how many came. -/
theorem readExactly_runsOut {count : Nat} {stream : Stream}
    (hfew : (untilEnd stream.incoming).length < count) (hends : fromEnd stream.incoming ≠ []) :
    stream.RunsOut count (untilEnd stream.incoming).length (stream.readExactly none count) := by
  obtain ⟨middle, hread, hleaves⟩ :=
    @exists_readMore_eq count count [] stream (Nat.zero_add count)
  rw [List.nil_append, List.take_of_length_le (Nat.le_of_lt hfew)] at hread
  rw [List.drop_of_length_le (Nat.le_of_lt hfew)] at hleaves
  rw [← hleaves.ending] at hends
  rw [readExactly, hread]
  exact hleaves.runsOut (readMore_runsOut hfew hleaves.unread hends)

end Stream

namespace Frame

open BigEndian Countersign.Stream

variable {stream : Stream}

/-- Reads so many framed responses, one after the other. -/
def readResponses (deadline : Option Nat) :
    (count : Nat) → Stream → List (Except Error Response) × Stream
  | 0, stream => ([], stream)
  | count + 1, stream =>
    let (answer, next) := readResponse deadline stream
    let (answers, last) := readResponses deadline count next
    (answer :: answers, last)

/-- Once a header is there, it decides whether a response is read at all, and how long it is. -/
theorem exists_readResponse_eq {header rest : Bytes} (hwidth : header.length = headerLength)
    (hbytes : untilEnd stream.incoming = header ++ rest) :
    ∃ middle, stream.LeavesUnread rest middle ∧
      readResponse none stream =
        if maxResponseData < value header then (.error .unexpectedResponse, middle)
        else readResponseBody none (value header) middle := by
  have henough : headerLength ≤ (untilEnd stream.incoming).length := by
    rw [hbytes, List.length_append, hwidth]
    exact Nat.le_add_right _ _
  obtain ⟨middle, hread, hleaves⟩ := exists_readExactly_eq_ok henough
  rw [hbytes, ← hwidth, List.take_left] at hread
  rw [hbytes, ← hwidth, List.drop_left] at hleaves
  refine ⟨middle, hleaves, ?_⟩
  rw [readResponse, ← hwidth, hread]

/-- The data and the status of a response are found where a response ends. -/
theorem exists_readResponseBody_eq_ok {length : Nat} {body rest : Bytes}
    (hlength : body.length = length + 2) (hbytes : untilEnd stream.incoming = body ++ rest) :
    ∃ response after, Response.read body = .ok (response, []) ∧
      readResponseBody none length stream = (.ok response, after) ∧
      stream.LeavesUnread rest after := by
  have henough : length + 2 ≤ (untilEnd stream.incoming).length := by
    rw [hbytes, List.length_append, hlength]
    exact Nat.le_add_right _ _
  obtain ⟨after, hread, hleaves⟩ := exists_readExactly_eq_ok henough
  rw [hbytes, ← hlength, List.take_left] at hread
  rw [hbytes, ← hlength, List.drop_left] at hleaves
  have hlong : ¬body.length < 2 := by omega
  refine ⟨_, after, if_neg hlong, ?_, hleaves⟩
  rw [readResponseBody, ← hlength, hread, hlength, Nat.add_sub_cancel]

/-- A frame is the frame of the response that is found in its body. -/
theorem ofResponse_of_read {length : Nat} {body rest : Bytes} {response : Response}
    (hlength : body.length = length + 2) (hread : Response.read body = .ok (response, rest)) :
    ofResponse response = fixed headerLength length ++ body := by
  have hform := Response.eq_form_of_read hread
  have hdata : response.data.length = length := by
    rw [hform, Response.length_form] at hlength
    exact Nat.add_right_cancel hlength
  rw [hform, ofResponse, hdata, Response.form, List.append_assoc]

/-- A whole frame is read as its response, and nothing behind it is touched. -/
theorem exists_readResponse_eq_ok {length : Nat} {body rest : Bytes}
    (hbound : length ≤ maxResponseData) (hlength : body.length = length + 2)
    (hbytes : untilEnd stream.incoming = fixed headerLength length ++ body ++ rest) :
    ∃ response after, Response.read body = .ok (response, []) ∧
      readResponse none stream = (.ok response, after) ∧ stream.LeavesUnread rest after := by
  have hcapacity : length < capacity headerLength := Nat.lt_of_le_of_lt hbound (by decide)
  rw [List.append_assoc] at hbytes
  obtain ⟨middle, hmiddle, hread⟩ := exists_readResponse_eq (length_fixed _ _) hbytes
  rw [value_fixed_of_lt hcapacity, if_neg (Nat.not_lt.2 hbound)] at hread
  obtain ⟨response, after, hresponse, hbody, hleaves⟩ :=
    exists_readResponseBody_eq_ok hlength hmiddle.unread
  exact ⟨response, after, hresponse, hread.trans hbody, hmiddle.trans hleaves⟩

/-- Frames that stand one after the other are read one after the other. -/
theorem exists_readResponses_eq_ok {responses : List Response} {rest : Bytes}
    (hbound : ∀ response ∈ responses, response.data.length ≤ maxResponseData)
    (hbytes : untilEnd stream.incoming = responses.flatMap ofResponse ++ rest) :
    ∃ after, readResponses none responses.length stream = (responses.map .ok, after) ∧
      stream.LeavesUnread rest after := by
  induction responses generalizing stream with
  | nil =>
    rw [List.flatMap_nil, List.nil_append] at hbytes
    rw [← hbytes]
    exact ⟨stream, rfl, .refl stream⟩
  | cons response responses ih =>
    obtain ⟨hfirst, hlater⟩ := List.forall_mem_cons.1 hbound
    have hframe : untilEnd stream.incoming = fixed headerLength response.data.length ++
        response.form ++ (responses.flatMap ofResponse ++ rest) := by
      rw [hbytes, List.flatMap_cons, ofResponse, Response.form]
      simp only [List.append_assoc]
    obtain ⟨found, middle, hfound, hread, hmiddle⟩ :=
      exists_readResponse_eq_ok hfirst response.length_form hframe
    rw [Response.read_form] at hfound
    cases hfound
    obtain ⟨after, hreads, hafter⟩ := ih hlater hmiddle.unread
    refine ⟨after, ?_, hmiddle.trans hafter⟩
    rw [List.length_cons, readResponses, hread]
    simp only [hreads, List.map_cons]

/-- A frame that announces too much is refused as soon as its header is read. -/
theorem exists_readResponse_eq_unexpected {header rest : Bytes}
    (hwidth : header.length = headerLength) (hlong : maxResponseData < value header)
    (hbytes : untilEnd stream.incoming = header ++ rest) :
    ∃ after, readResponse none stream = (.error .unexpectedResponse, after) ∧
      stream.LeavesUnread rest after := by
  obtain ⟨middle, hmiddle, hread⟩ := exists_readResponse_eq hwidth hbytes
  rw [if_pos hlong] at hread
  exact ⟨middle, hread, hmiddle⟩

/-- A stream that ends within the header. -/
theorem readResponse_runsOut_of_header
    (hfew : (untilEnd stream.incoming).length < headerLength)
    (hends : fromEnd stream.incoming ≠ []) :
    stream.RunsOut headerLength (untilEnd stream.incoming).length (readResponse none stream) := by
  obtain ⟨failure, after, hread, hend⟩ := readExactly_runsOut hfew hends
  refine ⟨failure, after, ?_, hend⟩
  rw [readResponse, hread]

/-- A stream that ends behind the header and before the end of the frame. -/
theorem readResponse_runsOut_of_body {header part : Bytes} (hwidth : header.length = headerLength)
    (hbound : value header ≤ maxResponseData) (hbytes : untilEnd stream.incoming = header ++ part)
    (hpart : part.length < value header + 2) (hends : fromEnd stream.incoming ≠ []) :
    stream.RunsOut (value header + 2) part.length (readResponse none stream) := by
  obtain ⟨middle, hmiddle, hread⟩ := exists_readResponse_eq hwidth hbytes
  rw [if_neg (Nat.not_lt.2 hbound)] at hread
  rw [← hmiddle.unread] at hpart
  rw [← hmiddle.ending] at hends
  obtain ⟨failure, after, hbody, hend⟩ := readExactly_runsOut hpart hends
  rw [hmiddle.unread] at hend
  apply hmiddle.runsOut
  refine ⟨failure, after, ?_, hend⟩
  rw [hread, readResponseBody, hbody]

/-- Whatever the pieces in which the bytes before the end of a stream come, a reader gets the bytes
that it waits for and leaves the others, without reading where it waits for none. A reader of
responses reads one frame as the response in its body, several frames as their responses in order,
and refuses a frame that announces too much behind its header. Where the bytes come to an end
before, both learn it with the number of bytes that they waited for and the number that came, or
fail as the stream does. -/
theorem fragments_read_exactly {bytes : Bytes} (hbytes : untilEnd stream.incoming = bytes) :
    (∀ count ≤ bytes.length, ∃ after,
      stream.readExactly none count = (.ok (bytes.take count), after) ∧
        stream.LeavesUnread (bytes.drop count) after) ∧
    stream.readExactly none 0 = (.ok [], stream) ∧
    (∀ (length : Nat) (body rest : Bytes), length ≤ maxResponseData → body.length = length + 2 →
      bytes = fixed headerLength length ++ body ++ rest →
        ∃ response after, decode body = .ok (response, body.length) ∧
          ofResponse response = fixed headerLength length ++ body ∧
          readResponse none stream = (.ok response, after) ∧ stream.LeavesUnread rest after) ∧
    (∀ (responses : List Response) (rest : Bytes),
      (∀ response ∈ responses, response.data.length ≤ maxResponseData) →
      bytes = responses.flatMap ofResponse ++ rest →
        ∃ after, readResponses none responses.length stream = (responses.map .ok, after) ∧
          stream.LeavesUnread rest after) ∧
    (∀ header rest : Bytes, header.length = headerLength → maxResponseData < value header →
      bytes = header ++ rest →
        ∃ after, readResponse none stream = (.error .unexpectedResponse, after) ∧
          stream.LeavesUnread rest after) ∧
    (fromEnd stream.incoming ≠ [] →
      (∀ count, bytes.length < count →
        stream.RunsOut count bytes.length (stream.readExactly none count)) ∧
      (bytes.length < headerLength →
        stream.RunsOut headerLength bytes.length (readResponse none stream)) ∧
      ∀ header part : Bytes, header.length = headerLength → value header ≤ maxResponseData →
        bytes = header ++ part → part.length < value header + 2 →
          stream.RunsOut (value header + 2) (bytes.length - headerLength)
            (readResponse none stream)) := by
  subst hbytes
  refine ⟨?_, ?_, ?_, ?_, ?_, fun hends => ⟨?_, ?_, ?_⟩⟩
  · intro count henough
    exact exists_readExactly_eq_ok henough
  · rw [readExactly, readMore, if_neg (Nat.not_lt_zero _)]
  · intro length body rest hbound hlength hframe
    obtain ⟨response, after, hfound, hread, hleaves⟩ :=
      exists_readResponse_eq_ok hbound hlength hframe
    exact ⟨response, after, decode_eq_ok_iff_read.2 ⟨[], hfound, rfl⟩,
      ofResponse_of_read hlength hfound, hread, hleaves⟩
  · intro responses rest hbound hframes
    exact exists_readResponses_eq_ok hbound hframes
  · intro header rest hwidth hlong hframe
    exact exists_readResponse_eq_unexpected hwidth hlong hframe
  · intro count hfew
    exact readExactly_runsOut hfew hends
  · intro hfew
    exact readResponse_runsOut_of_header hfew hends
  · intro header part hwidth hbound hframe hpart
    rw [hframe, List.length_append, hwidth, Nat.add_sub_cancel_left]
    exact readResponse_runsOut_of_body hwidth hbound hframe hpart hends

/-- A stream that brings its bytes one by one, each after a pause, and then fails. -/
def sampleDrip (bytes : Bytes) : Stream where
  incoming := bytes.flatMap (fun byte => [.pause 1, .data [byte]]) ++ [.fault .connectionReset]

/-- Two frames drip in, and one byte more. They are read one by one or both in a row, the stream
then fails within the next header, and it fails within a body. A frame of 65537 bytes is refused. -/
theorem fragments_read_exactly_drip :
    (∃ response after, decode [0x07, 0x90, 0x00] = .ok (response, 3) ∧
      ofResponse response = [0, 0, 0, 1, 0x07, 0x90, 0x00] ∧
      readResponse none (sampleDrip [0, 0, 0, 1, 0x07, 0x90, 0x00, 0x55]) = (.ok response, after) ∧
      (sampleDrip [0, 0, 0, 1, 0x07, 0x90, 0x00, 0x55]).LeavesUnread [0x55] after) ∧
    (∃ after, readResponses none 2 (sampleDrip [0, 0, 0, 1, 0x07, 0x90, 0, 0, 0, 0, 0, 0x6d, 0]) =
      ([.ok ⟨[0x07], 0x9000⟩, .ok ⟨[], 0x6d00⟩], after)) ∧
    (∃ after, readResponse none (sampleDrip [0, 1, 0, 1, 0x55]) =
      (.error .unexpectedResponse, after)) ∧
    (sampleDrip [0, 0]).RunsOut 3 2 ((sampleDrip [0, 0]).readExactly none 3) ∧
    (sampleDrip [0, 0]).RunsOut 4 2 (readResponse none (sampleDrip [0, 0])) ∧
    (sampleDrip [0, 0, 0, 2, 0xaa, 0xbb, 0x90]).RunsOut 4 3
      (readResponse none (sampleDrip [0, 0, 0, 2, 0xaa, 0xbb, 0x90])) := by
  have hframe := @fragments_read_exactly (sampleDrip [0, 0, 0, 1, 0x07, 0x90, 0x00, 0x55]) _ rfl
  have hframes := @fragments_read_exactly
    (sampleDrip [0, 0, 0, 1, 0x07, 0x90, 0, 0, 0, 0, 0, 0x6d, 0]) _ rfl
  have hlong := @fragments_read_exactly (sampleDrip [0, 1, 0, 1, 0x55]) _ rfl
  have hheader := @fragments_read_exactly (sampleDrip [0, 0]) _ rfl
  have hbody := @fragments_read_exactly (sampleDrip [0, 0, 0, 2, 0xaa, 0xbb, 0x90]) _ rfl
  obtain ⟨-, -, hwhole, -⟩ := hframe
  obtain ⟨-, -, -, hrow, -⟩ := hframes
  obtain ⟨-, -, -, -, hrefused, -⟩ := hlong
  obtain ⟨-, -, -, -, -, hfails⟩ := hheader
  obtain ⟨-, -, -, -, -, hbreaks⟩ := hbody
  obtain ⟨hcount, hpart, -⟩ := hfails (by decide)
  obtain ⟨after, hread, -⟩ := hrow [⟨[0x07], 0x9000⟩, ⟨[], 0x6d00⟩] [] (by decide) rfl
  obtain ⟨after', hrefused, -⟩ := hrefused [0, 1, 0, 1] [0x55] rfl (by decide) rfl
  exact ⟨hwhole 1 [0x07, 0x90, 0x00] [0x55] (by decide) rfl rfl, ⟨after, hread⟩,
    ⟨after', hrefused⟩, hcount 3 (by decide), hpart (by decide),
    (hbreaks (by decide)).2.2 [0, 0, 0, 2] [0xaa, 0xbb, 0x90] rfl (by decide) rfl (by decide)⟩

end Frame

end Countersign

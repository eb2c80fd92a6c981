/-
# One deadline for a whole exchange

An exchange waits for its peer as often as the peer likes, to write, to flush and to read, all under
one deadline. So it is the total of the delays that counts, not any one of them, and only of those
within the exchange: if they add up to no more than the time-out, the exchange goes as it would
without them, and otherwise it ends at the deadline and takes the transport with it, however much
of the response was there. When an exchange starts does not matter, so in a run every exchange has
the whole of its own time-out.
-/

import Countersign.Proofs.Stream.Delays
import Countersign.Proofs.Stream.Pairing
import Countersign.Proofs.Wire.Reading

namespace Countersign

open Timed

/-- The same round with a peer that does not pause. -/
def Round.withoutPauses (round : Round) : Round :=
  { round with arrivals := Stream.withoutPauses round.arrivals }

namespace Transport

/-- Sends a frame and reads the response, with or without a deadline. -/
def sendBy (frame : Bytes) : Timed Response :=
  andThen (fun deadline stream => stream.writeAll deadline frame) fun _ =>
    andThen (fun deadline stream => stream.flush deadline) fun _ deadline stream =>
      Frame.readResponse deadline stream

theorem sendFrame_eq_sendBy (frame : Bytes) (deadline : Nat) (stream : Stream) :
    sendFrame frame deadline stream = sendBy frame (some deadline) stream := by
  rw [sendFrame, sendBy, andThen]
  rcases stream.writeAll (some deadline) frame with ⟨failure | _, written⟩
  · rfl
  · dsimp only
    rw [andThen]
    rcases written.flush (some deadline) with ⟨failure | _, flushed⟩ <;> rfl

theorem timely_sendBy (frame : Bytes) : (sendBy frame).Timely :=
  (Stream.timely_writeAll frame).andThen fun _ => Stream.timely_flush.andThen fun _ =>
    Frame.timely_readResponse

theorem undisturbed_sendBy (frame : Bytes) : (sendBy frame).Undisturbed :=
  (Stream.undisturbed_writeAll frame).andThen fun _ => Stream.undisturbed_flush.andThen fun _ =>
    Frame.undisturbed_readResponse

/-- How long the peer of a stream would keep the exchange of a frame waiting in all; nothing if the
exchange would never end. -/
def delay? (frame : Bytes) (stream : Stream) : Option Nat :=
  match sendBy frame none stream with
  | (.error .requestTimeout, _) => none
  | (_, after) => some (after.clock - stream.clock)

/-- What comes of an exchange when sending has come out in some way. -/
def settle : Except Error Response × Stream → Except Error Response × Transport
  | (.ok response, stream) => (.ok response, ⟨stream, false⟩)
  | (.error failure, stream) => (.error failure, ⟨stream.shutDown, true⟩)

/-- What the transport would be if its peer had no delays and never had any. -/
def withoutDelays (transport : Transport) : Transport :=
  { transport with stream := transport.stream.withoutDelays }

/-- The same transport after more time has passed. -/
def later (elapsed : Nat) (transport : Transport) : Transport :=
  { transport with stream := transport.stream.later elapsed }

variable {transport : Transport} {command frame : Bytes} {timeout : Nat}

theorem settle_eq (answer : Except Error Response) (stream : Stream) :
    settle (answer, stream) = (answer, (settle (answer, stream)).2) := by
  cases answer <;> rfl

theorem settle_withoutDelays (answer : Except Error Response) (stream : Stream) :
    settle (answer, stream.withoutDelays) =
      (answer, (settle (answer, stream)).2.withoutDelays) := by
  cases answer <;> rfl

theorem settle_later (answer : Except Error Response) (stream : Stream) (elapsed : Nat) :
    settle (answer, stream.later elapsed) =
      ((settle (answer, stream)).1, (settle (answer, stream)).2.later elapsed) := by
  cases answer <;> rfl

/-- Shutting a stream down takes no time. -/
theorem clock_settle (answer : Except Error Response) (stream : Stream) :
    (settle (answer, stream)).2.stream.clock = stream.clock ∧
      (settle (answer, stream)).2.stream.delays = stream.delays := by
  cases answer <;> exact ⟨rfl, rfl⟩

theorem exchange_eq_settle (hworking : transport.failed = false)
    (hframe : Frame.ofRequest command = .ok frame) :
    exchange command timeout transport =
      settle (sendBy frame (some (transport.stream.clock + timeout)) transport.stream) := by
  have hfailed : ¬transport.failed = true := by
    rw [hworking]
    exact Bool.false_ne_true
  rw [exchange, if_neg hfailed, hframe]
  dsimp only
  rw [sendFrame_eq_sendBy]
  rcases sendBy frame (some (transport.stream.clock + timeout)) transport.stream with
    ⟨failure | response, after⟩
  · rfl
  · rw [settle, hworking]

/-- A command that is too long for any frame is refused at once. -/
theorem exchange_of_no_frame {failure : Error} (hworking : transport.failed = false)
    (hframe : Frame.ofRequest command = .error failure) :
    exchange command timeout transport = (.error failure, transport) := by
  have hfailed : ¬transport.failed = true := by
    rw [hworking]
    exact Bool.false_ne_true
  rw [exchange, if_neg hfailed, hframe]

theorem delay?_eq_some_iff {stream : Stream} {delay : Nat} :
    delay? frame stream = some delay ↔ (sendBy frame none stream).1 ≠ .error .requestTimeout ∧
      (sendBy frame none stream).2.clock = stream.clock + delay := by
  have hclock := ((timely_sendBy frame).spends stream).1
  unfold delay?
  split
  · next after hsend =>
    rw [hsend]
    exact iff_of_false (fun hnone => by cases hnone) fun hsome => hsome.1 rfl
  · next answer after hanswer hsend =>
    rw [hsend] at hclock ⊢
    rw [Option.some.injEq]
    constructor
    · rintro rfl
      refine ⟨?_, (Nat.add_sub_cancel' hclock).symm⟩
      rintro rfl
      exact hanswer rfl
    · rintro ⟨-, hdelay⟩
      dsimp only at hdelay
      omega

/-- An exchange never ends only if its peer does nothing more at all. -/
theorem silent_of_delay?_eq_none {stream : Stream} (hdelay : delay? frame stream = none) :
    ∃ after, sendBy frame none stream = (.error .requestTimeout, after) ∧ after.incoming = [] := by
  have hsilent := (timely_sendBy frame).silent stream
  unfold delay? at hdelay
  split at hdelay
  · next after hsend =>
    rw [hsend] at hsilent
    exact ⟨after, hsend, hsilent rfl⟩
  · cases hdelay

/-- Within the time-out, an exchange goes as it would without delays, and takes the time of the
delays that are over. -/
theorem exchange_of_delay_le {delay : Nat} (hworking : transport.failed = false)
    (hframe : Frame.ofRequest command = .ok frame)
    (hdelay : delay? frame transport.stream = some delay) (htime : delay ≤ timeout) :
    ∃ answer next, exchange command timeout transport = (answer, next) ∧
      exchange command timeout transport.withoutDelays = (answer, next.withoutDelays) ∧
      answer ≠ .error .requestTimeout ∧
      next.stream.clock = transport.stream.clock + delay ∧
      transport.stream.delays = delay + next.stream.delays := by
  obtain ⟨hanswer, hclock⟩ := delay?_eq_some_iff.1 hdelay
  obtain ⟨-, hspent⟩ := (timely_sendBy frame).spends transport.stream
  have hundisturbed := undisturbed_sendBy frame transport.stream
  have hsend := (timely_sendBy frame).inTime transport.stream (transport.stream.clock + timeout)
    hanswer (by omega)
  have hsend' := (timely_sendBy frame).inTime transport.stream.withoutDelays (0 + timeout)
    (by rw [hundisturbed]; exact hanswer) (by rw [hundisturbed]; exact Nat.zero_le _)
  rcases houtcome : sendBy frame none transport.stream with ⟨answer, after⟩
  rw [houtcome] at hanswer hclock hspent hundisturbed hsend
  dsimp only at hclock hspent
  rw [hundisturbed] at hsend'
  obtain ⟨hsettled, hleft⟩ := clock_settle answer after
  refine ⟨answer, (settle (answer, after)).2, ?_, ?_, hanswer, ?_, ?_⟩
  · rw [exchange_eq_settle hworking hframe, hsend, ← settle_eq]
  · have hworking' : transport.withoutDelays.failed = false := hworking
    rw [exchange_eq_settle hworking' hframe]
    exact (congrArg settle hsend').trans (settle_withoutDelays answer after)
  · rw [hsettled, hclock]
  · rw [hleft]
    omega

/-- An exchange whose delays are longer than the time-out, or that would never end, fails at the
deadline. -/
theorem exchange_of_delay_gt (hworking : transport.failed = false)
    (hframe : Frame.ofRequest command = .ok frame)
    (hdelay : ∀ delay, delay? frame transport.stream = some delay → timeout < delay) :
    ∃ next, exchange command timeout transport = (.error .requestTimeout, next) ∧
      next.failed = true ∧ next.stream.clock = transport.stream.clock + timeout := by
  have hlate : (sendBy frame none transport.stream).1 = .error .requestTimeout ∨
      transport.stream.clock + timeout < (sendBy frame none transport.stream).2.clock := by
    by_cases hanswer : (sendBy frame none transport.stream).1 = .error .requestTimeout
    · exact .inl hanswer
    · have hclock := ((timely_sendBy frame).spends transport.stream).1
      have hlong := hdelay ((sendBy frame none transport.stream).2.clock - transport.stream.clock)
        (delay?_eq_some_iff.2 ⟨hanswer, by omega⟩)
      exact .inr (by omega)
  obtain ⟨stopped, hstopped, hclock⟩ :=
    (timely_sendBy frame).late _ _ (Nat.le_add_right _ timeout) hlate
  refine ⟨⟨stopped.shutDown, true⟩, ?_, rfl, hclock⟩
  rw [exchange_eq_settle hworking hframe, hstopped, settle]

/-- How an exchange goes does not depend on how much time has passed before. -/
theorem exchange_later (command : Bytes) (timeout elapsed : Nat) (transport : Transport) :
    exchange command timeout (transport.later elapsed) =
      ((exchange command timeout transport).1,
        (exchange command timeout transport).2.later elapsed) := by
  cases hworking : transport.failed with
  | true =>
    have hfailed : (transport.later elapsed).failed = true := hworking
    rw [exchange_of_failed hworking, exchange_of_failed hfailed]
  | false =>
    have hworking' : (transport.later elapsed).failed = false := hworking
    cases hframe : Frame.ofRequest command with
    | error failure =>
      rw [exchange_of_no_frame hworking hframe, exchange_of_no_frame hworking' hframe]
    | ok frame =>
      have hlater := (timely_sendBy frame).later (some (transport.stream.clock + timeout))
        transport.stream elapsed
      rw [Option.map_some, Nat.add_right_comm] at hlater
      rw [exchange_eq_settle hworking hframe, exchange_eq_settle hworking' hframe]
      exact (congrArg settle hlater).trans (settle_later _ _ _)

/-! ### Runs -/

/-- Every exchange of a run has delays that add up to no more than its own time-out. -/
def OnTime (transport : Transport) : List Round → Prop
  | [] => True
  | round :: rounds =>
    ((transport.arrive round.arrivals).failed = false →
      ∀ frame, round.frame = .ok frame →
        ∃ delay, delay? frame (transport.arrive round.arrivals).stream = some delay ∧
          delay ≤ round.exchange.timeout) ∧
    OnTime (exchange round.exchange.command round.exchange.timeout
      (transport.arrive round.arrivals)).2 rounds

/-- An exchange within its time-out goes as it would without delays, also if nothing is exchanged
any more, or nothing is sent. -/
theorem exchange_withoutDelays (transport : Transport) (command : Bytes) (timeout : Nat)
    (htime : transport.failed = false → ∀ frame, Frame.ofRequest command = .ok frame →
      ∃ delay, delay? frame transport.stream = some delay ∧ delay ≤ timeout) :
    exchange command timeout transport.withoutDelays =
      ((exchange command timeout transport).1,
        (exchange command timeout transport).2.withoutDelays) := by
  cases hworking : transport.failed with
  | true =>
    have hfailed : transport.withoutDelays.failed = true := hworking
    rw [exchange_of_failed hworking, exchange_of_failed hfailed]
  | false =>
    have hworking' : transport.withoutDelays.failed = false := hworking
    cases hframe : Frame.ofRequest command with
    | error failure =>
      rw [exchange_of_no_frame hworking hframe, exchange_of_no_frame hworking' hframe]
    | ok frame =>
      obtain ⟨delay, hdelay, hshort⟩ := htime hworking frame hframe
      obtain ⟨answer, next, hexchange, hexchange', -⟩ :=
        exchange_of_delay_le hworking hframe hdelay hshort
      rw [hexchange, hexchange']

theorem withoutDelays_arrive (transport : Transport) (arrivals : List PeerEvent) :
    (transport.arrive arrivals).withoutDelays =
      transport.withoutDelays.arrive (Stream.withoutPauses arrivals) := by
  simp only [arrive, withoutDelays, Stream.withoutDelays, Stream.receive,
    Stream.withoutPauses_append]

/-- A run in which every exchange keeps to its own time-out goes as it would without delays. -/
theorem converse_withoutDelays {transport : Transport} {rounds : List Round}
    (htime : transport.OnTime rounds) :
    transport.withoutDelays.converse (rounds.map Round.withoutPauses) =
      ((transport.converse rounds).1, (transport.converse rounds).2.withoutDelays) := by
  induction rounds generalizing transport with
  | nil => rfl
  | cons round rounds ih =>
    obtain ⟨hfirst, hrest⟩ := htime
    have hexchange := exchange_withoutDelays (transport.arrive round.arrivals)
      round.exchange.command round.exchange.timeout hfirst
    have harrive : transport.withoutDelays.arrive round.withoutPauses.arrivals =
        (transport.arrive round.arrivals).withoutDelays :=
      (withoutDelays_arrive transport round.arrivals).symm
    rw [List.map_cons, converse, converse, harrive,
      show round.withoutPauses.exchange = round.exchange from rfl, hexchange]
    simp only [ih hrest]

/-- The time-out bounds the whole of an exchange, and nothing else. If the delays within an exchange
add up to no more than the time-out, the exchange comes out as without any delays, takes the same
bytes and leaves the same of them, and the clock goes on by these delays, which are then over. If
they add up to more, or the exchange would never end, it fails at the deadline, and the transport
has failed; it would never end only if the peer did nothing more at all. How much time has passed
before makes no difference. So in a run in which every exchange keeps to its own time-out, all of
them come out as without any delays. -/
theorem timeout_bounds_exchange (transport : Transport) (hworking : transport.failed = false)
    (command : Bytes) (timeout : Nat) :
    (∀ frame delay, Frame.ofRequest command = .ok frame →
      delay? frame transport.stream = some delay → delay ≤ timeout →
        ∃ answer next, exchange command timeout transport = (answer, next) ∧
          exchange command timeout transport.withoutDelays = (answer, next.withoutDelays) ∧
          answer ≠ .error .requestTimeout ∧
          next.stream.clock = transport.stream.clock + delay ∧
          transport.stream.delays = delay + next.stream.delays) ∧
    (∀ frame, Frame.ofRequest command = .ok frame →
      (∀ delay, delay? frame transport.stream = some delay → timeout < delay) →
        ∃ next, exchange command timeout transport = (.error .requestTimeout, next) ∧
          next.failed = true ∧ next.stream.clock = transport.stream.clock + timeout) ∧
    (∀ frame, delay? frame transport.stream = none →
      ∃ after, sendBy frame none transport.stream = (.error .requestTimeout, after) ∧
        after.incoming = []) ∧
    (∀ failure, Frame.ofRequest command = .error failure →
      exchange command timeout transport = (.error failure, transport)) ∧
    (∀ elapsed, exchange command timeout (transport.later elapsed) =
      ((exchange command timeout transport).1,
        (exchange command timeout transport).2.later elapsed)) ∧
    ∀ rounds, transport.OnTime rounds →
      transport.withoutDelays.converse (rounds.map Round.withoutPauses) =
        ((transport.converse rounds).1, (transport.converse rounds).2.withoutDelays) :=
  ⟨fun _ _ hframe hdelay htime => exchange_of_delay_le hworking hframe hdelay htime,
    fun _ hframe hdelay => exchange_of_delay_gt hworking hframe hdelay,
    fun _ hdelay => silent_of_delay?_eq_none hdelay,
    fun _ hframe => exchange_of_no_frame hworking hframe,
    fun elapsed => exchange_later command timeout elapsed transport,
    fun _ htime => converse_withoutDelays htime⟩

/-- A stream that takes nothing for 5 milliseconds, and then brings a response in three parts, each
after 30 milliseconds. -/
def sampleDelays : Transport :=
  { stream :=
      { incoming := [.pause 30, .data [0, 0], .pause 30, .data [0, 0], .pause 30, .data [0x90, 0]]
        writePauses := [⟨0, 5⟩] } }

/-- Two rounds with a delay of 40 milliseconds and a time-out of 50 milliseconds each. -/
def sampleDelayedRounds : List Round :=
  List.replicate 2
    { arrivals := [.pause 40, .data [0, 0, 0, 0, 0x90, 0]], exchange := ⟨[1], 50⟩ }

/-- No delay is longer than 30 milliseconds, but the time-out has to be 95 of them. Two rounds take
more time than one time-out, and both are answered. -/
theorem timeout_bounds_exchange_sample :
    (∃ next, exchange [1] 95 sampleDelays = (.ok ⟨[], 0x9000⟩, next) ∧
      next.stream.clock = 95) ∧
    (∃ next, exchange [1] 94 sampleDelays = (.error .requestTimeout, next) ∧
      next.failed = true ∧ next.stream.clock = 94) ∧
    (converse { stream := { incoming := [] } } sampleDelayedRounds).1.map Except.toOption =
      [some ⟨[], 0x9000⟩, some ⟨[], 0x9000⟩] := by
  have hframe : Frame.ofRequest [1] = .ok [0, 0, 0, 1, 1] := rfl
  have hdelay : delay? [0, 0, 0, 1, 1] sampleDelays.stream = some 95 := by decide +kernel
  obtain ⟨hshort, -⟩ := timeout_bounds_exchange sampleDelays rfl [1] 95
  obtain ⟨-, hlong, -⟩ := timeout_bounds_exchange sampleDelays rfl [1] 94
  obtain ⟨-, -, -, -, -, hrun⟩ :=
    timeout_bounds_exchange { stream := { incoming := [] } } rfl [] 0
  refine ⟨?_, ?_, ?_⟩
  · obtain ⟨answer, next, hexchange, hwithout, -, hclock, -⟩ :=
      hshort _ _ hframe hdelay (Nat.le_refl _)
    have hanswer : (exchange [1] 95 sampleDelays.withoutDelays).1.toOption =
        some ⟨[], 0x9000⟩ := by decide +kernel
    rw [hwithout] at hanswer
    obtain rfl := toOption_eq_some_iff.1 hanswer
    exact ⟨next, hexchange, hclock⟩
  · refine hlong _ hframe fun delay hsome => ?_
    cases hdelay.symm.trans hsome
    decide
  · have htime : OnTime { stream := { incoming := [] } } sampleDelayedRounds := by
      refine ⟨fun _ frame hsent => ?_, fun _ frame hsent => ?_, trivial⟩
      · cases hsent
        exact ⟨40, by decide +kernel, by decide⟩
      · cases hsent
        exact ⟨40, by decide +kernel, by decide⟩
    have hanswers := congrArg Prod.fst (hrun _ htime)
    rw [← hanswers]
    decide +kernel

end Transport

end Countersign

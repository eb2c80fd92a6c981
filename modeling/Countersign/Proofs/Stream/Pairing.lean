/-
# A response is never paired with another command

A run of a transport is a list of rounds. Before each exchange the peer may do whatever it likes,
send late responses, too many or none, pause, fail or leave, and the stream cuts both directions
as it likes. As long as every exchange succeeds, whole frames have passed in both directions, one
for one. The first exchange that fails ends this for good: the stream is shut down, and no later
exchange touches it, whatever still arrives.
-/

import Countersign.Handle
import Countersign.Proofs.Stream.Framing
import Countersign.Stream.Transport

namespace Countersign

/-- One round of a run. -/
structure Round where
  /-- What becomes of the peer before the exchange, after all that was known before. -/
  arrivals : List PeerEvent
  exchange : Exchange
  deriving DecidableEq, Repr

/-- The frame of the command of a round. -/
def Round.frame (round : Round) : Except Error Bytes :=
  Frame.ofRequest round.exchange.command

namespace Transport

open Countersign.Stream Error

/-- The peer goes on. -/
def arrive (arrivals : List PeerEvent) (transport : Transport) : Transport :=
  { transport with stream := transport.stream.receive arrivals }

/-- Goes through some rounds: the answer to each of them, and the transport after them. -/
def converse (transport : Transport) : List Round → List (Except Error Response) × Transport
  | [] => ([], transport)
  | round :: rounds =>
    let (answer, next) :=
      (transport.arrive round.arrivals).exchange round.exchange.command round.exchange.timeout
    let (answers, last) := next.converse rounds
    (answer :: answers, last)

/-- How an exchange comes out on a transport that works. -/
inductive Exchanges (transport : Transport) (command : Bytes) :
    Except Error Response × Transport → Prop
  /-- The frame of the command was written, and the frame of one response was read. -/
  | answered {frame : Bytes} {response : Response} {stream : Stream}
      (hframe : Frame.ofRequest command = .ok frame)
      (hmoves : transport.stream.Moves frame (Frame.ofResponse response) stream)
      (hbound : response.data.length ≤ Frame.maxResponseData) :
      Exchanges transport command (.ok response, ⟨stream, false⟩)
  /-- The exchange broke off, and the stream was shut down. -/
  | broken {frame put taken : Bytes} {failure : Error} {stream : Stream}
      (hframe : Frame.ofRequest command = .ok frame)
      (hmoves : transport.stream.Moves put taken stream) (hput : put <+: frame)
      (hloses : failure.LosesStep) :
      Exchanges transport command (.error failure, ⟨stream.shutDown, true⟩)
  /-- The command is too long for any frame. -/
  | unsent {failure : Error} (hframe : Frame.ofRequest command = .error failure) :
      Exchanges transport command (.error failure, transport)

/-- Sending a frame puts it on the stream, and takes the frame of the response. -/
theorem reaches_sendFrame (frame : Bytes) (deadline : Nat) (stream : Stream) :
    stream.Reaches frame
      (fun response taken =>
        response.data.length ≤ Frame.maxResponseData ∧ taken = Frame.ofResponse response)
      (sendFrame frame deadline stream) := by
  have hwrite := reaches_writeAll (some deadline) frame stream
  unfold sendFrame
  generalize stream.writeAll (some deadline) frame = outcome at hwrite
  cases hwrite with
  | broken hmoves hput hloses => exact .broken hmoves hput hloses
  | @reached value taken written hmoves hnone =>
    subst hnone
    have hflush := reaches_flush (some deadline) written
    generalize hflushed : written.flush (some deadline) = outcome at hflush
    simp only [hflushed]
    cases hflush with
    | broken hrest hput hloses =>
      have hall := (List.prefix_append_right_inj frame).2 hput
      rw [List.append_nil] at hall
      exact .broken (hmoves.trans hrest) hall hloses
    | @reached value taken flushed hrest hnone =>
      subst hnone
      have hboth := hmoves.trans hrest
      have hread := Frame.reaches_readResponse (some deadline) flushed
      rw [List.append_nil, List.append_nil] at hboth
      rw [← List.append_nil frame]
      exact Reaches.after hboth hread fun _ _ hgoal => hgoal

/-- A transport that works exchanges a command for the next response, breaks off, or sends
nothing. -/
theorem exchanges_exchange (transport : Transport) (command : Bytes) (timeout : Nat)
    (hworking : transport.failed = false) :
    Exchanges transport command (transport.exchange command timeout) := by
  unfold exchange
  rw [hworking]
  simp only [Bool.false_eq_true, if_false]
  split
  · next failure hframe => exact .unsent hframe
  · next frame hframe =>
    have hsend := reaches_sendFrame frame (transport.stream.clock + timeout) transport.stream
    generalize sendFrame frame (transport.stream.clock + timeout) transport.stream = outcome
      at hsend
    cases hsend with
    | @reached response taken stream hmoves hgoal =>
      obtain ⟨hbound, rfl⟩ := hgoal
      exact .answered hframe hmoves hbound
    | broken hmoves hput hloses => exact .broken hframe hmoves hput hloses

/-- A transport that has failed does nothing any more. -/
theorem exchange_of_failed {transport : Transport} (hfailed : transport.failed = true)
    (command : Bytes) (timeout : Nat) :
    transport.exchange command timeout = (.error .transportFailed, transport) := by
  rw [exchange, hfailed, if_pos rfl]

theorem arrive_arrive (earlier later : List PeerEvent) (transport : Transport) :
    (transport.arrive earlier).arrive later = transport.arrive (earlier ++ later) := by
  simp only [arrive, receive, List.append_assoc]

/-- Rounds on a transport that has failed are all refused, and nothing is written or read. -/
theorem converse_of_failed {transport : Transport} (hfailed : transport.failed = true)
    (rounds : List Round) :
    transport.converse rounds =
      (List.replicate rounds.length (.error .transportFailed),
        transport.arrive (rounds.flatMap Round.arrivals)) := by
  induction rounds generalizing transport with
  | nil =>
    rw [converse, List.flatMap_nil, arrive, receive, List.append_nil]
    rfl
  | cons round rounds ih =>
    have hstill : (transport.arrive round.arrivals).failed = true := hfailed
    rw [converse, exchange_of_failed hstill]
    simp only [ih hstill, arrive_arrive]
    rfl

/-- Both directions stand between two frames. Since the first transport, the frames of all rounds
were written, and nothing else, and the frames of the responses were read, and nothing else: one
response for each round. -/
structure InStep (first : Transport) (rounds : List Round) (responses : List Response)
    (last : Transport) : Prop where
  working : last.failed = false
  kept : last.stream.shutdowns = first.stream.shutdowns
  oneEach : responses.length = rounds.length
  bounded : ∀ response ∈ responses, response.data.length ≤ Frame.maxResponseData
  written : ∃ frames : List Bytes, rounds.map Round.frame = frames.map .ok ∧
    last.stream.written = first.stream.written ++ frames.flatten
  taken : brought first.stream.incoming ++ brought (rounds.flatMap Round.arrivals) =
    responses.flatMap Frame.ofResponse ++ brought last.stream.incoming

/-- How a run goes. -/
inductive Paired (first : Transport) :
    List Round → List (Except Error Response) × Transport → Prop
  /-- Each exchange was answered by the response whose frame was next on the stream. -/
  | inStep {rounds : List Round} {responses : List Response} {last : Transport}
      (hstep : InStep first rounds responses last) :
      Paired first rounds (responses.map .ok, last)
  /-- All went well before some exchange, which failed and shut the stream down. Every later one
  was refused, and left the stream as it was. -/
  | broken {before after : List Round} {round : Round} {responses : List Response}
      {failure : Error} {middle stopped : Transport} {frame put : Bytes}
      (hstep : InStep first before responses middle)
      (hbefore : first.converse before = (responses.map .ok, middle))
      (hfails : (middle.arrive round.arrivals).exchange round.exchange.command
        round.exchange.timeout = (.error failure, stopped))
      (hloses : failure.LosesStep) (hfailed : stopped.failed = true)
      (hframe : round.frame = .ok frame) (hput : put <+: frame)
      (hwritten : stopped.stream.written = middle.stream.written ++ put)
      (hshut : stopped.stream.shutdowns = first.stream.shutdowns + 1) :
      Paired first (before ++ round :: after)
        (responses.map .ok ++
            .error failure :: List.replicate after.length (.error .transportFailed),
          stopped.arrive (after.flatMap Round.arrivals))

/-- Nothing has happened yet. -/
theorem InStep.refl {transport : Transport} (hworking : transport.failed = false) :
    InStep transport [] [] transport :=
  ⟨hworking, rfl, rfl, fun _ hresponse => absurd hresponse List.not_mem_nil,
    ⟨[], rfl, (List.append_nil _).symm⟩, List.append_nil _⟩

/-- A round that was answered, before others that were. -/
theorem InStep.cons {first last : Transport} {stream : Stream} {round : Round}
    {rounds : List Round} {response : Response} {responses : List Response} {frame : Bytes}
    (hframe : round.frame = .ok frame)
    (hmoves : (first.arrive round.arrivals).stream.Moves frame (Frame.ofResponse response) stream)
    (hbound : response.data.length ≤ Frame.maxResponseData)
    (hstep : InStep ⟨stream, false⟩ rounds responses last) :
    InStep first (round :: rounds) (response :: responses) last where
  working := hstep.working
  kept := hstep.kept.trans hmoves.shutdowns
  oneEach := congrArg Nat.succ hstep.oneEach
  bounded := List.forall_mem_cons.2 ⟨hbound, hstep.bounded⟩
  written := by
    obtain ⟨frames, hframes, hwritten⟩ := hstep.written
    refine ⟨frame :: frames, ?_, ?_⟩
    · rw [List.map_cons, List.map_cons, hframe, hframes]
    · rw [hwritten, hmoves.written, List.flatten_cons, List.append_assoc]
      rfl
  taken := by
    have hincoming : brought first.stream.incoming ++ brought round.arrivals =
        Frame.ofResponse response ++ brought stream.incoming := by
      rw [← brought_append]
      exact hmoves.incoming
    rw [List.flatMap_cons, List.flatMap_cons, brought_append, ← List.append_assoc, hincoming,
      List.append_assoc, hstep.taken, List.append_assoc]

/-- A round that was answered, before others that have gone one way or the other. -/
theorem Paired.cons {first : Transport} {stream : Stream} {round : Round} {rounds : List Round}
    {response : Response} {frame : Bytes} {result : List (Except Error Response) × Transport}
    (hexchange : (first.arrive round.arrivals).exchange round.exchange.command
      round.exchange.timeout = (.ok response, ⟨stream, false⟩))
    (hframe : round.frame = .ok frame)
    (hmoves : (first.arrive round.arrivals).stream.Moves frame (Frame.ofResponse response) stream)
    (hbound : response.data.length ≤ Frame.maxResponseData)
    (hrest : Paired ⟨stream, false⟩ rounds result) :
    Paired first (round :: rounds) (.ok response :: result.1, result.2) := by
  cases hrest with
  | inStep hstep => exact .inStep (InStep.cons hframe hmoves hbound hstep)
  | @broken before after round' responses failure middle stopped frame' put hstep hbefore hfails
      hloses hfailed hframe' hput hwritten hshut =>
    have hrun : first.converse (round :: before) = ((response :: responses).map .ok, middle) := by
      rw [converse, hexchange]
      simp only [hbefore, List.map_cons]
    have hshut' : stopped.stream.shutdowns = first.stream.shutdowns + 1 :=
      hshut.trans (congrArg Nat.succ hmoves.shutdowns)
    show Paired first ((round :: before) ++ round' :: after)
      ((response :: responses).map .ok ++ _, _)
    exact .broken (InStep.cons hframe hmoves hbound hstep) hrun hfails hloses hfailed hframe' hput
      hwritten hshut'

/-- In every run over every stream, a response is paired with the command that it answers, and
nothing is paired any more after the first failure. -/
theorem converse_paired (transport : Transport) (hworking : transport.failed = false)
    (rounds : List Round)
    (hfits : ∀ round ∈ rounds, round.exchange.command.length < 2 ^ 32) :
    Paired transport rounds (transport.converse rounds) := by
  induction rounds generalizing transport with
  | nil => exact .inStep (.refl hworking)
  | cons round rounds ih =>
    have hlater : ∀ next ∈ rounds, next.exchange.command.length < 2 ^ 32 :=
      fun next hnext => hfits next (List.mem_cons_of_mem round hnext)
    have hlength : round.exchange.command.length < BigEndian.capacity Frame.headerLength :=
      hfits round List.mem_cons_self
    have hexchanges := exchanges_exchange (transport.arrive round.arrivals) round.exchange.command
      round.exchange.timeout hworking
    generalize hexchange : (transport.arrive round.arrivals).exchange round.exchange.command
      round.exchange.timeout = outcome at hexchanges
    rw [converse, hexchange]
    cases hexchanges with
    | answered hframe hmoves hbound =>
      exact Paired.cons hexchange hframe hmoves hbound (ih _ rfl hlater)
    | @broken frame put taken failure stream hframe hmoves hput hloses =>
      have hstopped : (⟨stream.shutDown, true⟩ : Transport).failed = true := rfl
      simp only [converse_of_failed hstopped]
      show Paired transport ([] ++ round :: rounds) (([] : List Response).map .ok ++ _, _)
      exact .broken (.refl hworking) rfl hexchange hloses rfl hframe hput hmoves.written
        (congrArg Nat.succ hmoves.shutdowns)
    | unsent hframe =>
      have hsent := (Frame.ofRequest_eq_ok_iff round.exchange.command _).2 ⟨hlength, rfl⟩
      rw [hsent] at hframe
      cases hframe

/-- A run of three rounds over a stream that takes three bytes at a time. The first response comes
in two pieces. The second one comes a second too late, so that the third exchange could take it
for its own. -/
def sampleRounds : List Round :=
  [{ arrivals := [.data [0, 0], .pause 5, .data [0, 1, 7, 0x90, 0]], exchange := ⟨[1], 10⟩ },
    { arrivals := [], exchange := ⟨[2, 2], 10⟩ },
    { arrivals := [.pause 1000, .data [0, 0, 0, 0, 0x90, 0]], exchange := ⟨[], 2000⟩ }]

def sampleTransport : Transport :=
  { stream := { incoming := [], pieceLimit := some 3 } }

/-- The late response is not read. -/
theorem converse_paired_late :
    (∀ round ∈ sampleRounds, round.exchange.command.length < 2 ^ 32) ∧
      Paired sampleTransport sampleRounds (sampleTransport.converse sampleRounds) ∧
      (sampleTransport.converse sampleRounds).1.map Except.toOption =
        [some ⟨[7], 0x9000⟩, none, none] ∧
      brought (sampleTransport.converse sampleRounds).2.stream.incoming = [0, 0, 0, 0, 0x90, 0] :=
  ⟨by decide, converse_paired sampleTransport rfl sampleRounds (by decide), by decide +kernel,
    by decide +kernel⟩

end Transport

end Countersign

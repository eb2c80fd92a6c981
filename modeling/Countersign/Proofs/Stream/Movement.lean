/-
# What moves on a stream

A stream cuts what it carries as it likes, but it neither invents bytes nor loses them. So the
events of a peer are looked at only for the bytes that they bring, and an operation only for the
bytes that it puts on the stream and takes from it.

An operation may break off at any point of either direction. What it has moved by then is still a
part of what it was to move, and it says so with a failure after which the stream is out of step.
-/

import Countersign.Stream.Frame

namespace Countersign

/-- The failures of an exchange that leave its stream out of step. -/
inductive Error.LosesStep : Error → Prop
  | io (fault : IoFault) : LosesStep (.io fault)
  | connectionClosed (expected received : Nat) : LosesStep (.connectionClosed expected received)
  | requestTimeout : LosesStep .requestTimeout
  | unexpectedResponse : LosesStep .unexpectedResponse

/-- The bytes that one event brings. -/
def PeerEvent.bytes : PeerEvent → Bytes
  | data bytes => bytes
  | pause _ | fault _ | close => []

/-- The bytes that a read finds. -/
def ReadOutcome.found : ReadOutcome → Bytes
  | bytes first rest => first :: rest
  | closed | fault _ | silence => []

namespace Stream

open Error

/-- The bytes that events bring, in their order. -/
def brought (events : List PeerEvent) : Bytes :=
  events.flatMap PeerEvent.bytes

@[simp]
theorem brought_nil : brought [] = [] := rfl

@[simp]
theorem brought_cons (event : PeerEvent) (later : List PeerEvent) :
    brought (event :: later) = event.bytes ++ brought later := rfl

@[simp]
theorem brought_append (earlier later : List PeerEvent) :
    brought (earlier ++ later) = brought earlier ++ brought later :=
  List.flatMap_append

@[simp]
theorem brought_keepUnread (unread : Bytes) (later : List PeerEvent) :
    brought (keepUnread unread later) = unread ++ brought later := by
  cases unread with
  | nil => rfl
  | cons first rest => rfl

/-- The stream whose peer does more than was known. -/
def receive (more : List PeerEvent) (stream : Stream) : Stream :=
  { stream with incoming := stream.incoming ++ more }

/-- The bytes that a read finds are the first ones that the peer sends. -/
theorem brought_await (want : Nat) (deadline : Option Nat) (clock : Nat)
    (events : List PeerEvent) :
    brought events = (await want deadline clock events).1.found ++
      brought (await want deadline clock events).2.2 := by
  fun_induction await want deadline clock events with
  | case1 clock => rfl
  | case2 clock later => rfl
  | case3 clock first rest later =>
    rw [brought_keepUnread, brought_cons, ReadOutcome.found, PeerEvent.bytes, List.cons_append,
      List.cons_append, ← List.append_assoc, List.take_append_drop]
  | case4 clock fault later => rfl
  | case5 clock later => rfl
  | case6 clock length later hpatient ih =>
    subst hpatient
    exact ih
  | case7 clock later length limit hlate => rfl
  | case8 clock length later limit hlimit hlate ih =>
    subst hlimit
    exact ih

/-- The second stream is the first one after some bytes were put on it and some were taken from
it. Time may have passed in between. -/
structure Moves (before : Stream) (put taken : Bytes) (after : Stream) : Prop where
  written : after.written = before.written ++ put
  incoming : brought before.incoming = taken ++ brought after.incoming
  shutdowns : after.shutdowns = before.shutdowns

theorem Moves.refl (stream : Stream) : stream.Moves [] [] stream :=
  ⟨(List.append_nil _).symm, rfl, rfl⟩

theorem Moves.trans {before middle after : Stream} {put put' taken taken' : Bytes}
    (hfirst : before.Moves put taken middle) (hsecond : middle.Moves put' taken' after) :
    before.Moves (put ++ put') (taken ++ taken') after where
  written := by rw [hsecond.written, hfirst.written, List.append_assoc]
  incoming := by rw [hfirst.incoming, hsecond.incoming, List.append_assoc]
  shutdowns := hsecond.shutdowns.trans hfirst.shutdowns

/-- How an operation that has to put some bytes on a stream comes out. If it succeeds, it has put
all of them, and its goal relates the result to the bytes that it took. If it breaks off, the
stream is out of step. -/
inductive Reaches {α : Type} (stream : Stream) (outgoing : Bytes) (goal : α → Bytes → Prop) :
    Except Error α × Stream → Prop
  | reached {value : α} {taken : Bytes} {after : Stream}
      (hmoves : stream.Moves outgoing taken after) (hgoal : goal value taken) :
      Reaches stream outgoing goal (.ok value, after)
  | broken {failure : Error} {put taken : Bytes} {after : Stream}
      (hmoves : stream.Moves put taken after) (hput : put <+: outgoing)
      (hloses : failure.LosesStep) : Reaches stream outgoing goal (.error failure, after)

/-- An operation that follows what was moved before it. -/
theorem Reaches.after {α : Type} {stream middle : Stream} {put taken outgoing : Bytes}
    {goal part : α → Bytes → Prop} {result : Except Error α × Stream}
    (hmoves : stream.Moves put taken middle) (hreaches : middle.Reaches outgoing part result)
    (hgoal : ∀ value rest, part value rest → goal value (taken ++ rest)) :
    stream.Reaches (put ++ outgoing) goal result := by
  cases hreaches with
  | reached hrest hpart => exact .reached (hmoves.trans hrest) (hgoal _ _ hpart)
  | broken hrest hput hloses =>
    exact .broken (hmoves.trans hrest) ((List.prefix_append_right_inj put).2 hput) hloses

/-- A read takes what it finds. -/
theorem moves_read (want : Nat) (deadline : Option Nat) (stream : Stream) :
    stream.Moves [] (stream.read want deadline).1.found (stream.read want deadline).2 where
  written := (List.append_nil _).symm
  incoming := brought_await want deadline stream.clock stream.incoming
  shutdowns := rfl

/-- No read finds more bytes than it asks for. -/
theorem length_found_await_le (want : Nat) (deadline : Option Nat) (clock : Nat)
    (events : List PeerEvent) :
    (await want deadline clock events).1.found.length ≤ want + 1 := by
  fun_induction await want deadline clock events with
  | case3 clock first rest later =>
    rw [ReadOutcome.found, List.length_cons, List.length_take]
    omega
  | case6 clock length later hpatient ih =>
    subst hpatient
    exact ih
  | case8 clock length later limit hlimit hlate ih =>
    subst hlimit
    exact ih
  | _ => exact Nat.zero_le _

/-- Reading on puts nothing on the stream, and adds exactly the bytes that it takes. -/
theorem reaches_readMore (deadline : Option Nat) (expected : Nat) (received : Bytes)
    (stream : Stream) (hfew : received.length ≤ expected) :
    stream.Reaches [] (fun bytes taken => bytes = received ++ taken ∧ bytes.length = expected)
      (stream.readMore deadline expected received) := by
  fun_induction readMore deadline expected received stream with
  | case1 received stream hless first rest next hread ih =>
    have hmoves := moves_read (expected - received.length - 1) deadline stream
    have hlength := length_found_await_le (expected - received.length - 1) deadline stream.clock
      stream.incoming
    rw [show (await (expected - received.length - 1) deadline stream.clock stream.incoming).1 =
      (stream.read (expected - received.length - 1) deadline).1 from rfl] at hlength
    rw [hread] at hmoves hlength
    have hstill : (received ++ first :: rest).length ≤ expected := by
      rw [List.length_append]
      simp only [ReadOutcome.found] at hlength
      omega
    refine Reaches.after hmoves (ih hstill) ?_
    rintro bytes taken ⟨hbytes, hall⟩
    exact ⟨by rw [hbytes, ReadOutcome.found, List.append_assoc], hall⟩
  | case2 received stream hless next hread =>
    have hmoves := moves_read (expected - received.length - 1) deadline stream
    rw [hread] at hmoves
    exact .broken hmoves List.prefix_rfl (.connectionClosed _ _)
  | case3 received stream hless fault next hread =>
    have hmoves := moves_read (expected - received.length - 1) deadline stream
    rw [hread] at hmoves
    exact .broken hmoves List.prefix_rfl (.io _)
  | case4 received stream hless next hread =>
    have hmoves := moves_read (expected - received.length - 1) deadline stream
    rw [hread] at hmoves
    exact .broken hmoves List.prefix_rfl .requestTimeout
  | case5 received stream hless =>
    exact .reached (.refl stream) ⟨(List.append_nil _).symm, by omega⟩

/-- Reading a number of bytes takes exactly the bytes that it gives. -/
theorem reaches_readExactly (deadline : Option Nat) (count : Nat) (stream : Stream) :
    stream.Reaches [] (fun bytes taken => bytes = taken ∧ bytes.length = count)
      (stream.readExactly deadline count) :=
  reaches_readMore deadline count [] stream (Nat.zero_le _)

/-- Waiting moves nothing. -/
theorem moves_becomeReady (deadline : Option Nat) (total : Nat) (stream : Stream) :
    stream.Moves [] [] (stream.becomeReady deadline total).2 := by
  unfold becomeReady
  split <;> exact ⟨(List.append_nil _).symm, rfl, rfl⟩

/-- Waiting fails only at the deadline. -/
theorem losesStep_of_becomeReady {deadline : Option Nat} {total : Nat} {stream after : Stream}
    {failure : Error} (hready : stream.becomeReady deadline total = (.error failure, after)) :
    failure.LosesStep := by
  unfold becomeReady at hready
  split at hready
  · cases hready
  · cases hready
    exact .requestTimeout

theorem pieceLength_le (stream : Stream) (total offered : Nat) :
    stream.pieceLength total offered ≤ offered := by
  cases hlimit : stream.pieceLimit <;> cases hpauses : stream.writePauses <;>
    simp only [pieceLength, hlimit, hpauses] <;> omega

/-- No write takes more bytes than it is offered. -/
theorem le_of_acceptOnce_eq_ok {stream : Stream} {total offered piece : Nat}
    (haccept : stream.acceptOnce total offered = .ok piece) : piece ≤ offered := by
  have hpiece := stream.pieceLength_le total offered
  unfold acceptOnce at haccept
  split at haccept
  · cases haccept
    exact hpiece
  · split at haccept
    · cases haccept
      exact Nat.le_trans (Nat.min_le_left _ _) hpiece
    · split at haccept
      · cases haccept
      · cases haccept
        exact Nat.zero_le _

/-- How offering bytes comes out: all of them are taken, or the stream is out of step. -/
inductive Accepts (stream : Stream) (offered : Nat) : Nat × Except Error Unit × Stream → Prop
  | whole {after : Stream} (hmoves : stream.Moves [] [] after) :
      Accepts stream offered (offered, .ok (), after)
  | part {taken : Nat} {failure : Error} {after : Stream} (hmoves : stream.Moves [] [] after)
      (hloses : failure.LosesStep) : Accepts stream offered (taken, .error failure, after)

theorem accepts_acceptAll (deadline : Option Nat) (total offered : Nat) (stream : Stream) :
    stream.Accepts offered (stream.acceptAll deadline total offered) := by
  fun_induction acceptAll deadline total offered stream with
  | case1 total stream => exact .whole (.refl stream)
  | case2 total offered stream hoffered failure next hready =>
    have hwait := moves_becomeReady deadline total stream
    rw [hready] at hwait
    exact .part hwait (losesStep_of_becomeReady hready)
  | case3 total offered stream hoffered next hready fault haccept
  | case4 total offered stream hoffered next hready haccept =>
    have hwait := moves_becomeReady deadline total stream
    rw [hready] at hwait
    exact .part hwait (.io _)
  | case5 total offered stream hoffered next hready more haccept taken outcome after hrest ih =>
    have hwait := moves_becomeReady deadline total stream
    rw [hready] at hwait
    rw [hrest] at ih
    have hpiece := le_of_acceptOnce_eq_ok haccept
    cases ih with
    | whole hmoves =>
      rw [show more + 1 + (offered - (more + 1)) = offered by omega]
      exact .whole (hwait.trans hmoves)
    | part hmoves hloses => exact .part (hwait.trans hmoves) hloses

/-- Writing takes nothing from the stream. It puts all of the bytes on it, or a part of them. -/
theorem reaches_writeAll (deadline : Option Nat) (bytes : Bytes) (stream : Stream) :
    stream.Reaches bytes (fun _ taken => taken = []) (stream.writeAll deadline bytes) := by
  have haccepts := accepts_acceptAll deadline stream.written.length bytes.length stream
  unfold writeAll
  generalize stream.acceptAll deadline stream.written.length bytes.length = outcome at haccepts
  cases haccepts with
  | @whole after hmoves =>
    have hput : stream.Moves bytes []
        { after with written := stream.written ++ bytes.take bytes.length } :=
      ⟨by rw [List.take_length], hmoves.incoming, hmoves.shutdowns⟩
    exact .reached hput rfl
  | @part taken failure after hmoves hloses =>
    exact .broken ⟨rfl, hmoves.incoming, hmoves.shutdowns⟩ (List.take_prefix taken bytes) hloses

/-- Flushing moves nothing. -/
theorem reaches_flush (deadline : Option Nat) (stream : Stream) :
    stream.Reaches [] (fun _ taken => taken = []) (stream.flush deadline) := by
  have hwait := moves_becomeReady deadline stream.written.length stream
  unfold flush
  split
  · next failure next hready =>
    rw [hready] at hwait
    exact .broken hwait List.prefix_rfl (losesStep_of_becomeReady hready)
  · next next hready =>
    rw [hready] at hwait
    split
    · exact .reached hwait rfl
    · split
      · exact .reached hwait rfl
      · exact .broken hwait List.prefix_rfl (.io _)

end Stream

end Countersign

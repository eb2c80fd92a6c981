/-
# Delays in what a client does

Reading, writing and flushing are sequences of waits, as many of them as the peer likes. A client
reads in the parts that the peer sends and writes in the parts that the stream takes, and one
deadline over all of them is one deadline. Without a deadline, delays make no difference to what is
read, nor to how many bytes are taken, although they divide what is written into other parts.
-/

import Countersign.Proofs.Stream.Steadiness
import Countersign.Proofs.Stream.Timing
import Countersign.Stream.Frame

namespace Countersign

open Timed

/-- What a read means to a client that wants `expected` bytes and has `received` of them. -/
def ReadOutcome.part (expected received : Nat) : ReadOutcome → Except Error (UInt8 × Bytes)
  | bytes first rest => .ok (first, rest)
  | closed => .error (.connectionClosed expected received)
  | fault cause => .error (.io cause)
  | silence => .error .requestTimeout

theorem ReadOutcome.part_eq_requestTimeout_iff {expected received : Nat} {outcome : ReadOutcome} :
    outcome.part expected received = .error .requestTimeout ↔ outcome = .silence := by
  cases outcome <;> simp [part]

namespace Stream

/-! ### Reading -/

/-- One read of a client that wants `expected` bytes and has `received` of them. -/
def readPart (expected received : Nat) : Timed (UInt8 × Bytes) := fun deadline stream =>
  let found := stream.read (expected - received - 1) deadline
  (found.1.part expected received, found.2)

theorem read_eq (want : Nat) (deadline : Option Nat) (stream : Stream) :
    stream.read want deadline = ((await want deadline stream.clock stream.incoming).1,
      { stream with
        clock := (await want deadline stream.clock stream.incoming).2.1
        incoming := (await want deadline stream.clock stream.incoming).2.2 }) := rfl

theorem timely_readPart (expected received : Nat) : (readPart expected received).Timely where
  spends stream := by
    obtain ⟨hclock, htime⟩ :=
      await_spends (expected - received - 1) stream.clock stream.incoming
    rw [readPart, read_eq]
    refine ⟨hclock, ?_⟩
    simp only [delays]
    omega
  silent stream hanswer := await_silence (ReadOutcome.part_eq_requestTimeout_iff.1 hanswer)
  inTime stream limit hanswer hclock := by
    have hfound := mt ReadOutcome.part_eq_requestTimeout_iff.2 hanswer
    have hsame : stream.read (expected - received - 1) (some limit) =
        stream.read (expected - received - 1) none := by
      rw [read, read, await_in_time hfound hclock]
    rw [readPart, readPart, hsame]
  late stream limit hlimit hlate := by
    obtain ⟨left, hawait⟩ := await_late hlimit
      (hlate.imp_left ReadOutcome.part_eq_requestTimeout_iff.1)
    refine ⟨{ stream with clock := limit, incoming := left }, ?_, rfl⟩
    rw [readPart, read, hawait]
    rfl
  later deadline stream elapsed := by
    have hawait := await_later (expected - received - 1) deadline stream.clock elapsed
      stream.incoming
    have hread : (stream.later elapsed).read (expected - received - 1)
        (deadline.map (· + elapsed)) =
        ((stream.read (expected - received - 1) deadline).1,
          (stream.read (expected - received - 1) deadline).2.later elapsed) := by
      rw [read, later, hawait]
      rfl
    rw [readPart, readPart, hread]

theorem undisturbed_readPart (expected received : Nat) :
    (readPart expected received).Undisturbed := by
  intro stream
  have hawait := await_withoutPauses (expected - received - 1) stream.clock stream.incoming
  have hread : stream.withoutDelays.read (expected - received - 1) none =
      ((stream.read (expected - received - 1) none).1,
        (stream.read (expected - received - 1) none).2.withoutDelays) := by
    rw [read, withoutDelays, hawait]
    rfl
  rw [readPart, readPart, hread]

/-- Reading goes on after each part. -/
theorem readMore_eq_andThen (expected : Nat) (received : Bytes) :
    (fun deadline stream => stream.readMore deadline expected received) =
      if received.length < expected then
        (readPart expected received.length).andThen fun part deadline stream =>
          stream.readMore deadline expected (received ++ part.1 :: part.2)
      else fun _ stream => (.ok received, stream) := by
  funext deadline stream
  rw [readMore]
  split
  · rw [andThen, readPart]
    rcases stream.read (expected - received.length - 1) deadline with
      ⟨⟨first, rest⟩ | _ | fault | _, next⟩ <;> rfl
  · rfl

theorem timely_readMore (expected : Nat) (received : Bytes) :
    Timely fun deadline stream => stream.readMore deadline expected received := by
  induction hmissing : expected - received.length using Nat.strongRecOn generalizing received with
  | ind missing ih =>
    rw [readMore_eq_andThen]
    split
    · refine (timely_readPart _ _).andThen fun part => ih _ ?_ _ rfl
      rw [List.length_append, List.length_cons]
      omega
    · exact timely_pure received

theorem undisturbed_readMore (expected : Nat) (received : Bytes) :
    Undisturbed fun deadline stream => stream.readMore deadline expected received := by
  induction hmissing : expected - received.length using Nat.strongRecOn generalizing received with
  | ind missing ih =>
    rw [readMore_eq_andThen]
    split
    · refine (undisturbed_readPart _ _).andThen fun part => ih _ ?_ _ rfl
      rw [List.length_append, List.length_cons]
      omega
    · exact fun _ => rfl

/-! ### Writing -/

theorem becomeReady_eq (deadline : Option Nat) (total : Nat) (stream : Stream) :
    stream.becomeReady deadline total =
      (if (waitThrough deadline total stream.clock stream.writePauses).1 then .ok ()
        else .error .requestTimeout,
        { stream with
          clock := (waitThrough deadline total stream.clock stream.writePauses).2.1
          writePauses := (waitThrough deadline total stream.clock stream.writePauses).2.2 }) := by
  rw [becomeReady]
  rcases waitThrough deadline total stream.clock stream.writePauses with ⟨_ | _, clock, left⟩
  · rfl
  · rfl

/-- Waits until the stream takes more bytes than were written. -/
def ready : Timed Unit := fun deadline stream =>
  stream.becomeReady deadline stream.written.length

theorem timely_ready : ready.Timely where
  spends stream := by
    obtain ⟨passed, left, hwait, hclock, htime⟩ :=
      waitThrough_spends stream.written.length stream.clock stream.writePauses
    rw [ready, becomeReady_eq, hwait]
    refine ⟨hclock, ?_⟩
    simp only [delays]
    omega
  silent stream hanswer := by
    obtain ⟨passed, left, hwait, -⟩ :=
      waitThrough_spends stream.written.length stream.clock stream.writePauses
    rw [ready, becomeReady_eq, hwait] at hanswer
    cases hanswer
  inTime stream limit _ hclock := by
    rw [ready, becomeReady_eq] at hclock
    rw [ready, ready, becomeReady_eq, becomeReady_eq, waitThrough_in_time hclock]
  late stream limit hlimit hlate := by
    obtain ⟨passed, left, hwait, -⟩ :=
      waitThrough_spends stream.written.length stream.clock stream.writePauses
    have hpassed : limit <
        (waitThrough none stream.written.length stream.clock stream.writePauses).2.1 := by
      rw [ready, becomeReady_eq, hwait] at hlate
      rw [hwait]
      exact hlate.resolve_left fun hanswer => by cases hanswer
    obtain ⟨left', hwait'⟩ := waitThrough_late hlimit hpassed
    refine ⟨{ stream with clock := limit, writePauses := left' }, ?_, rfl⟩
    rw [ready, becomeReady_eq, hwait']
    rfl
  later deadline stream elapsed := by
    have hwait := waitThrough_later deadline stream.written.length stream.clock elapsed
      stream.writePauses
    rw [ready, ready, becomeReady_eq, becomeReady_eq, later, hwait]
    rfl

/-- Without a deadline a stream becomes ready for more bytes, at once if it has no pauses. -/
theorem becomeReady_none (total : Nat) (stream : Stream) :
    ∃ next, stream.becomeReady none total = (.ok (), next) ∧
      next.withoutDelays = stream.withoutDelays ∧
      (∀ pause ∈ next.writePauses.head?, total < pause.after) ∧
      (stream.writePauses = [] → next = stream) := by
  obtain ⟨passed, left, hwait, -⟩ := waitThrough_spends total stream.clock stream.writePauses
  refine ⟨{ stream with clock := passed, writePauses := left }, ?_, rfl,
    lt_after_of_waitThrough hwait, fun hnone => ?_⟩
  · rw [becomeReady_eq, hwait]
    rfl
  · rw [hnone] at hwait
    cases hwait
    rw [← hnone]

theorem undisturbed_ready : ready.Undisturbed := by
  intro stream
  obtain ⟨next, hready, hsame, -⟩ := becomeReady_none stream.written.length stream
  rw [ready, ready, hready, hsame]
  rfl

/-- One write of a part of the bytes: how many were taken, less one. -/
def writePart (bytes : Bytes) : Timed Nat := fun _ stream =>
  match stream.acceptOnce stream.written.length bytes.length with
  | .error fault => (.error (.io fault), stream)
  | .ok 0 => (.error (.io .writeZero), stream)
  | .ok (more + 1) => (.ok more, { stream with written := stream.written ++ bytes.take (more + 1) })

theorem timely_writePart (bytes : Bytes) : (writePart bytes).Timely := by
  refine timely_of_instant (writePart bytes none) (fun _ _ => rfl) (fun stream => ?_)
    fun stream elapsed => ?_
  · unfold writePart
    split
    · exact ⟨fun hanswer => (by cases hanswer), rfl, rfl⟩
    · exact ⟨fun hanswer => (by cases hanswer), rfl, rfl⟩
    · exact ⟨fun hanswer => (by cases hanswer), rfl, rfl⟩
  · have haccept : (stream.later elapsed).acceptOnce (stream.later elapsed).written.length
        bytes.length = stream.acceptOnce stream.written.length bytes.length := rfl
    unfold writePart
    rw [haccept]
    split <;> rfl

/-- What was written before does not matter to a write but for its length. -/
theorem acceptAll_written (deadline : Option Nat) (total offered : Nat) (stream : Stream)
    (written : Bytes) :
    Stream.acceptAll deadline total offered { stream with written } =
      ((stream.acceptAll deadline total offered).1, (stream.acceptAll deadline total offered).2.1,
        { (stream.acceptAll deadline total offered).2.2 with written }) := by
  have hready (total : Nat) (stream : Stream) :
      Stream.becomeReady deadline total { stream with written } =
        ((stream.becomeReady deadline total).1,
          { (stream.becomeReady deadline total).2 with written }) := by
    rw [becomeReady_eq, becomeReady_eq]
  exact @acceptAll_map deadline (fun stream => { stream with written }) hready (fun _ _ _ => rfl)
    total offered stream

/-- Writing in terms of how many of the bytes are taken. -/
theorem writeAll_of_acceptAll {deadline : Option Nat} {bytes : Bytes} {stream after : Stream}
    {taken : Nat} {outcome : Except Error Unit}
    (haccept : stream.acceptAll deadline stream.written.length bytes.length =
      (taken, outcome, after)) :
    stream.writeAll deadline bytes =
      (outcome, { after with written := stream.written ++ bytes.take taken }) := by
  rw [writeAll, haccept]

/-- If nothing is taken, writing leaves the stream as the waiting has left it. -/
theorem writeAll_of_nothing {deadline : Option Nat} {bytes : Bytes} {stream after : Stream}
    {outcome : Except Error Unit} (hwritten : after.written = stream.written)
    (haccept : stream.acceptAll deadline stream.written.length bytes.length =
      (0, outcome, after)) :
    stream.writeAll deadline bytes = (outcome, after) := by
  rw [writeAll_of_acceptAll haccept, List.take_zero, List.append_nil, ← hwritten]

/-- If a part is taken, writing goes on with the others. -/
theorem writeAll_of_part {deadline : Option Nat} {bytes : Bytes} {stream next : Stream} {more : Nat}
    (hsome : bytes.length ≠ 0)
    (hwait : stream.becomeReady deadline stream.written.length = (.ok (), next))
    (haccept : next.acceptOnce stream.written.length bytes.length = .ok (more + 1)) :
    stream.writeAll deadline bytes = writeAll deadline (bytes.drop (more + 1))
      { next with written := stream.written ++ bytes.take (more + 1) } := by
  have hle := le_of_acceptOnce_eq_ok haccept
  have htotal : (stream.written ++ bytes.take (more + 1)).length =
      stream.written.length + more + 1 := by
    rw [List.length_append, List.length_take, Nat.min_eq_left hle, Nat.add_assoc]
  rcases hrest : next.acceptAll deadline (stream.written.length + more + 1)
    (bytes.length - (more + 1)) with ⟨taken, outcome, after⟩
  have hwhole : stream.acceptAll deadline stream.written.length bytes.length =
      (more + 1 + taken, outcome, after) := by
    rw [acceptAll, if_neg hsome, hwait]
    simp only [haccept, hrest]
  have hpart := acceptAll_written deadline (stream.written.length + more + 1)
    (bytes.length - (more + 1)) next (stream.written ++ bytes.take (more + 1))
  rw [hrest, ← htotal, ← List.length_drop] at hpart
  rw [writeAll_of_acceptAll hwhole, writeAll_of_acceptAll hpart, List.take_add, List.append_assoc]

/-- Writing goes on after each part. -/
theorem writeAll_eq_andThen (bytes : Bytes) :
    (fun deadline stream => stream.writeAll deadline bytes) =
      if bytes.length = 0 then fun _ stream => (.ok (), stream)
      else ready.andThen fun _ => (writePart bytes).andThen fun more deadline stream =>
        stream.writeAll deadline (bytes.drop (more + 1)) := by
  by_cases hnone : bytes.length = 0
  · rw [if_pos hnone]
    funext deadline stream
    exact writeAll_of_nothing rfl (by rw [acceptAll, if_pos hnone])
  · rw [if_neg hnone]
    funext deadline stream
    have hwritten := (moves_becomeReady deadline stream.written.length stream).written
    rw [List.append_nil] at hwritten
    rcases hwait : stream.becomeReady deadline stream.written.length with ⟨failure | _, next⟩
    · rw [hwait] at hwritten
      rw [andThen_of_error hwait]
      exact writeAll_of_nothing hwritten (by rw [acceptAll, if_neg hnone, hwait])
    · rw [hwait] at hwritten
      dsimp only at hwritten
      rw [andThen_of_ok hwait, andThen]
      rcases haccept : next.acceptOnce stream.written.length bytes.length with fault | _ | more
      · simp only [writePart, hwritten, haccept]
        refine writeAll_of_nothing hwritten ?_
        rw [acceptAll, if_neg hnone, hwait]
        simp only [haccept]
      · simp only [writePart, hwritten, haccept]
        refine writeAll_of_nothing hwritten ?_
        rw [acceptAll, if_neg hnone, hwait]
        simp only [haccept]
      · simp only [writePart, hwritten, haccept]
        exact writeAll_of_part hnone hwait haccept

theorem timely_writeAll (bytes : Bytes) :
    Timely fun deadline stream => stream.writeAll deadline bytes := by
  induction hlength : bytes.length using Nat.strongRecOn generalizing bytes with
  | ind length ih =>
    rw [writeAll_eq_andThen]
    split
    · exact timely_pure ()
    · next hsome =>
      refine timely_ready.andThen fun _ => (timely_writePart bytes).andThen fun more => ?_
      refine ih _ ?_ _ rfl
      rw [List.length_drop]
      omega

/-! ### How much is written without a deadline -/

/-- How many of the offered bytes a stream takes in the end, when `total` were written before. -/
def accepted (stream : Stream) (total offered : Nat) : Nat :=
  if stream.pieceLimit = some 0 then 0
  else match stream.writeFailure with
    | none => offered
    | some failure => min offered (failure.after - total)

/-- How a stream fails that takes no more bytes than `total`. -/
def refusal (stream : Stream) (total : Nat) : IoFault :=
  match stream.writeFailure with
  | none => .writeZero
  | some failure => if total < failure.after then .writeZero else failure.fault.getD .writeZero

section

variable {stream : Stream} {total offered : Nat}

theorem accepted_zero (stream : Stream) (total : Nat) : stream.accepted total 0 = 0 := by
  rw [accepted]
  split
  · rfl
  · split
    · rfl
    · exact Nat.zero_min _

theorem pieceLength_of_zero (hnone : stream.pieceLimit = some 0) :
    stream.pieceLength total offered = 0 := by
  rw [pieceLength, hnone]
  cases stream.writePauses <;> simp

/-- A write of some bytes is a part of what is taken in the end. -/
theorem accepted_of_acceptOnce {more : Nat}
    (haccept : stream.acceptOnce total offered = .ok (more + 1)) :
    stream.accepted total offered =
      more + 1 + stream.accepted (total + more + 1) (offered - (more + 1)) := by
  have hle := le_of_acceptOnce_eq_ok haccept
  unfold acceptOnce at haccept
  have htakes : stream.pieceLimit ≠ some 0 := by
    intro hnone
    rw [pieceLength_of_zero hnone] at haccept
    split at haccept
    · cases haccept
    · split at haccept
      · rw [Nat.zero_min] at haccept
        cases haccept
      · split at haccept <;> cases haccept
  rw [accepted, accepted, if_neg htakes, if_neg htakes]
  cases hfailure : stream.writeFailure with
  | none => exact (Nat.add_sub_cancel' hle).symm
  | some failure =>
    simp only [hfailure] at haccept ⊢
    split at haccept
    · have hpiece := Except.ok.inj haccept
      omega
    · split at haccept <;> cases haccept

theorem accepted_of_failed {failure : WriteFailure} (hfailure : stream.writeFailure = some failure)
    (hfailed : ¬total < failure.after) : stream.accepted total offered = 0 := by
  simp only [accepted, hfailure]
  split
  · rfl
  · omega

/-- If a write takes nothing, nothing is taken in the end. -/
theorem refusal_of_acceptOnce (hsome : offered ≠ 0)
    (hready : ∀ pause ∈ stream.writePauses.head?, total < pause.after)
    (haccept : stream.acceptOnce total offered = .ok 0) :
    stream.accepted total offered = 0 ∧ stream.refusal total = .writeZero := by
  have htakes (hpiece : stream.pieceLength total offered = 0) :
      stream.accepted total offered = 0 :=
    if_pos (Classical.not_not.1 fun htakes => pieceLength_ne_zero htakes hready hsome hpiece)
  cases hfailure : stream.writeFailure with
  | none =>
    simp only [acceptOnce, hfailure] at haccept
    refine ⟨htakes (Except.ok.inj haccept), ?_⟩
    simp only [refusal, hfailure]
  | some failure =>
    by_cases hbefore : total < failure.after
    · simp only [acceptOnce, hfailure, if_pos hbefore] at haccept
      have hpart := Except.ok.inj haccept
      refine ⟨htakes (by omega), ?_⟩
      simp only [refusal, hfailure, if_pos hbefore]
    · simp only [acceptOnce, hfailure, if_neg hbefore] at haccept
      refine ⟨accepted_of_failed hfailure hbefore, ?_⟩
      cases hfault : failure.fault with
      | none => simp only [refusal, hfailure, if_neg hbefore, hfault, Option.getD_none]
      | some fault =>
        rw [hfault] at haccept
        cases haccept

theorem refusal_of_acceptOnce_error {fault : IoFault}
    (haccept : stream.acceptOnce total offered = .error fault) :
    stream.accepted total offered = 0 ∧ stream.refusal total = fault := by
  cases hfailure : stream.writeFailure with
  | none =>
    simp only [acceptOnce, hfailure] at haccept
    cases haccept
  | some failure =>
    by_cases hbefore : total < failure.after
    · simp only [acceptOnce, hfailure, if_pos hbefore] at haccept
      cases haccept
    · simp only [acceptOnce, hfailure, if_neg hbefore] at haccept
      refine ⟨accepted_of_failed hfailure hbefore, ?_⟩
      cases hfault : failure.fault with
      | none =>
        rw [hfault] at haccept
        cases haccept
      | some other =>
        rw [hfault] at haccept
        simp only [refusal, hfailure, if_neg hbefore, hfault, Option.getD_some]
        exact Except.error.inj haccept

end

/-- Without a deadline, whether and where a stream stops taking bytes has nothing to do with its
pauses. -/
theorem acceptAll_none (total offered : Nat) (stream : Stream) :
    ∃ after, stream.acceptAll none total offered =
        (stream.accepted total offered,
          if stream.accepted total offered = offered then .ok ()
          else .error (.io (stream.refusal (total + stream.accepted total offered))), after) ∧
      after.withoutDelays = stream.withoutDelays ∧
      (stream.writePauses = [] → after = stream) := by
  induction offered using Nat.strongRecOn generalizing total stream with
  | ind offered ih =>
    by_cases hsome : offered = 0
    · subst hsome
      refine ⟨stream, ?_, rfl, fun _ => rfl⟩
      rw [acceptAll, if_pos rfl, accepted_zero, if_pos rfl]
    · obtain ⟨next, hready, hsame, hpause, hnext⟩ := becomeReady_none total stream
      -- What is taken depends on neither the pauses nor the clock.
      have haccepted : stream.accepted = next.accepted :=
        (congrArg accepted hsame.symm : stream.withoutDelays.accepted = next.withoutDelays.accepted)
      have hrefusal : stream.refusal = next.refusal :=
        (congrArg refusal hsame.symm : stream.withoutDelays.refusal = next.withoutDelays.refusal)
      rw [acceptAll, if_neg hsome, hready, haccepted, hrefusal]
      rcases haccept : next.acceptOnce total offered with fault | _ | more
      · obtain ⟨hnone, hfault⟩ := refusal_of_acceptOnce_error haccept
        refine ⟨next, ?_, hsame, hnext⟩
        simp only [haccept, hnone, if_neg (Ne.symm hsome), Nat.add_zero, hfault]
      · obtain ⟨hnone, hfault⟩ := refusal_of_acceptOnce hsome hpause haccept
        refine ⟨next, ?_, hsame, hnext⟩
        simp only [haccept, hnone, if_neg (Ne.symm hsome), Nat.add_zero, hfault]
      · have hle := le_of_acceptOnce_eq_ok haccept
        obtain ⟨after, hrest, hsame', hafter⟩ :=
          ih (offered - (more + 1)) (by omega) (total + more + 1) next
        have hwhole := accepted_of_acceptOnce haccept
        refine ⟨after, ?_, hsame'.trans hsame, fun hnone => ?_⟩
        · have hall : next.accepted (total + more + 1) (offered - (more + 1)) =
              offered - (more + 1) ↔ next.accepted total offered = offered := by omega
          have htotal : total + more + 1 + next.accepted (total + more + 1) (offered - (more + 1)) =
              total + next.accepted total offered := by omega
          simp only [haccept, hrest, ← hwhole, hall, htotal]
        · obtain rfl := hnext hnone
          exact hafter hnone

theorem undisturbed_writeAll (bytes : Bytes) :
    Undisturbed fun deadline stream => stream.writeAll deadline bytes := by
  intro stream
  obtain ⟨after, haccept, hsame, -⟩ :=
    acceptAll_none stream.written.length bytes.length stream
  obtain ⟨after', haccept', -, hafter'⟩ :=
    acceptAll_none stream.written.length bytes.length stream.withoutDelays
  obtain rfl := hafter' rfl
  dsimp only
  rw [writeAll_of_acceptAll haccept, writeAll_of_acceptAll haccept']
  have hwritten (written : Bytes) : { stream.withoutDelays with written } =
      { after.withoutDelays with written } := by
    rw [hsame]
  exact congrArg (Prod.mk _) (hwritten _)

/-! ### Flushing -/

/-- What is left of flushing when the stream is ready. -/
def flushNow : Timed Unit := fun _ stream =>
  match stream.flushFailure with
  | none => (.ok (), stream)
  | some failure =>
    if stream.written.length < failure.after then (.ok (), stream)
    else (.error (.io failure.fault), stream)

theorem flush_eq_andThen :
    (fun deadline stream => flush deadline stream) = ready.andThen fun _ => flushNow := by
  funext deadline stream
  rw [flush]
  rcases hwait : stream.becomeReady deadline stream.written.length with ⟨failure | _, next⟩
  · rw [andThen_of_error hwait]
  · rw [andThen_of_ok hwait]
    rfl

theorem timely_flushNow : flushNow.Timely := by
  refine timely_of_instant (flushNow none) (fun _ _ => rfl) (fun stream => ?_)
    fun stream elapsed => ?_
  · unfold flushNow
    split
    · exact ⟨fun hanswer => (by cases hanswer), rfl, rfl⟩
    · split
      · exact ⟨fun hanswer => (by cases hanswer), rfl, rfl⟩
      · exact ⟨fun hanswer => (by cases hanswer), rfl, rfl⟩
  · have hlater : (stream.later elapsed).flushFailure = stream.flushFailure := rfl
    have hwritten : (stream.later elapsed).written = stream.written := rfl
    unfold flushNow
    rw [hlater, hwritten]
    split
    · rfl
    · split <;> rfl

theorem timely_flush : Timely fun deadline stream => flush deadline stream := by
  rw [flush_eq_andThen]
  exact timely_ready.andThen fun _ => timely_flushNow

theorem undisturbed_flush : Undisturbed fun deadline stream => flush deadline stream := by
  rw [flush_eq_andThen]
  refine undisturbed_ready.andThen fun _ stream => ?_
  have hsame : stream.withoutDelays.flushFailure = stream.flushFailure := rfl
  have hwritten : stream.withoutDelays.written = stream.written := rfl
  unfold flushNow
  rw [hsame, hwritten]
  split
  · rfl
  · split <;> rfl

end Stream

namespace Frame

theorem readResponse_eq_andThen :
    (fun deadline stream => readResponse deadline stream) =
      andThen (fun deadline stream => stream.readExactly deadline headerLength) fun header =>
        if maxResponseData < BigEndian.value header then
          fun _ stream => (.error .unexpectedResponse, stream)
        else
          andThen (fun deadline stream => stream.readExactly deadline (BigEndian.value header + 2))
            fun body _ stream => (.ok ⟨body.take (BigEndian.value header),
              UInt16.ofNat (BigEndian.value (body.drop (BigEndian.value header)))⟩, stream) := by
  funext deadline stream
  rw [readResponse, andThen]
  rcases stream.readExactly deadline headerLength with ⟨failure | header, next⟩
  · rfl
  · dsimp only
    split
    · rfl
    · rw [readResponseBody, andThen]
      rcases next.readExactly deadline (BigEndian.value header + 2) with ⟨failure | body, last⟩ <;>
        rfl

theorem timely_readResponse : Timely fun deadline stream => readResponse deadline stream := by
  rw [readResponse_eq_andThen]
  refine (Stream.timely_readMore headerLength []).andThen fun header => ?_
  split
  · exact timely_fail (fun herror => by cases herror)
  · exact (Stream.timely_readMore _ []).andThen fun body => timely_pure _

theorem undisturbed_readResponse :
    Undisturbed fun deadline stream => readResponse deadline stream := by
  rw [readResponse_eq_andThen]
  refine (Stream.undisturbed_readMore headerLength []).andThen fun header => ?_
  split
  · exact fun _ => rfl
  · exact (Stream.undisturbed_readMore _ []).andThen fun body _ => rfl

end Frame

end Countersign

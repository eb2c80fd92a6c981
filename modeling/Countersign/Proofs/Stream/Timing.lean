/-
# Time on a stream

Time passes on a stream only by the delays of its peer: what has passed and what is still to come
is the same before and after anything that a client does without a deadline. A deadline changes
nothing but where this ends. What a client does comes out as it would without a deadline, if it
comes out by then, and otherwise it stops at the deadline, wherever it is. This has to be looked at
only where the client waits, for something to read and until the stream takes more; it passes on to
whatever is done with such waits, one after the other.

In the same way, without a deadline the delays make no difference to anything but the clock.
-/

import Countersign.Stream

namespace Countersign

namespace Stream

/-- The events without the pauses between them. -/
def withoutPauses : List PeerEvent → List PeerEvent
  | [] => []
  | .pause _ :: later => withoutPauses later
  | .data bytes :: later => .data bytes :: withoutPauses later
  | .fault fault :: later => .fault fault :: withoutPauses later
  | .close :: later => .close :: withoutPauses later

/-- How long all of the pauses between the events are. -/
def pauseTime : List PeerEvent → Nat
  | [] => 0
  | .pause length :: later => length + pauseTime later
  | .data _ :: later | .fault _ :: later | .close :: later => pauseTime later

/-- How long all of these pauses before more bytes are taken are. -/
def writePauseTime : List WritePause → Nat
  | [] => 0
  | pause :: later => pause.length + writePauseTime later

/-- All of the delays that a stream still has. -/
def delays (stream : Stream) : Nat :=
  pauseTime stream.incoming + writePauseTime stream.writePauses

/-- What the stream would be if it had no delays and never had any: no time has passed. -/
def withoutDelays (stream : Stream) : Stream :=
  { stream with incoming := withoutPauses stream.incoming, writePauses := [], clock := 0 }

/-- The same stream after more time has passed. -/
def later (elapsed : Nat) (stream : Stream) : Stream :=
  { stream with clock := stream.clock + elapsed }

variable {want clock limit total : Nat} {events : List PeerEvent} {pauses : List WritePause}

/-! ### Waiting for something to read -/

@[simp]
theorem pauseTime_keepUnread (unread : Bytes) (later : List PeerEvent) :
    pauseTime (keepUnread unread later) = pauseTime later := by
  cases unread <;> rfl

theorem withoutPauses_keepUnread (unread : Bytes) (later : List PeerEvent) :
    withoutPauses (keepUnread unread later) = keepUnread unread (withoutPauses later) := by
  cases unread <;> rfl

theorem withoutPauses_append (earlier later : List PeerEvent) :
    withoutPauses (earlier ++ later) = withoutPauses earlier ++ withoutPauses later := by
  induction earlier with
  | nil => rfl
  | cons event events ih => cases event <;> simp only [List.cons_append, withoutPauses, ih]

/-- The time goes on by the pauses that are over. -/
theorem await_spends (want clock : Nat) (events : List PeerEvent) :
    clock ≤ (await want none clock events).2.1 ∧
      (await want none clock events).2.1 + pauseTime (await want none clock events).2.2 =
        clock + pauseTime events := by
  induction events generalizing clock with
  | nil => exact ⟨Nat.le_refl _, rfl⟩
  | cons event later ih =>
    cases event with
    | data bytes => cases bytes <;> simp [await, pauseTime]
    | pause length =>
      obtain ⟨hclock, htime⟩ := ih (clock + length)
      simp only [await, pauseTime]
      omega
    | fault fault => exact ⟨Nat.le_refl _, rfl⟩
    | close => exact ⟨Nat.le_refl _, rfl⟩

/-- Without a deadline, nothing is found only if nothing is left but pauses. -/
theorem await_silence (hsilence : (await want none clock events).1 = .silence) :
    (await want none clock events).2.2 = [] := by
  induction events generalizing clock with
  | nil => rfl
  | cons event later ih =>
    cases event with
    | data bytes => cases bytes <;> cases hsilence
    | pause length => exact ih hsilence
    | fault fault => cases hsilence
    | close => cases hsilence

/-- What is found by the deadline is what is found without one. -/
theorem await_in_time (hfound : (await want none clock events).1 ≠ .silence)
    (htime : (await want none clock events).2.1 ≤ limit) :
    await want (some limit) clock events = await want none clock events := by
  induction events generalizing clock with
  | nil => exact absurd rfl hfound
  | cons event later ih =>
    cases event with
    | data bytes => cases bytes <;> rfl
    | pause length =>
      have hclock := (await_spends want (clock + length) later).1
      simp only [await] at hfound htime ⊢
      rw [if_neg (by omega)]
      exact ih hfound htime
    | fault fault => rfl
    | close => rfl

/-- What is not found by the deadline is waited for until the deadline. -/
theorem await_late (hclock : clock ≤ limit)
    (hlate : (await want none clock events).1 = .silence ∨
      limit < (await want none clock events).2.1) :
    ∃ left, await want (some limit) clock events = (.silence, limit, left) := by
  induction events generalizing clock with
  | nil => exact ⟨[], rfl⟩
  | cons event later ih =>
    cases event with
    | data bytes => cases bytes <;> simp [await] at hlate <;> omega
    | pause length =>
      simp only [await] at hlate ⊢
      split
      · exact ⟨_, rfl⟩
      · next hshort => exact ih (Nat.le_of_not_lt hshort) hlate
    | fault fault => simp [await] at hlate; omega
    | close => simp [await] at hlate; omega

/-- Only the time up to the deadline counts, not when the waiting starts. -/
theorem await_later (want : Nat) (deadline : Option Nat) (clock elapsed : Nat)
    (events : List PeerEvent) :
    await want (deadline.map (· + elapsed)) (clock + elapsed) events =
      ((await want deadline clock events).1, (await want deadline clock events).2.1 + elapsed,
        (await want deadline clock events).2.2) := by
  induction events generalizing clock with
  | nil => cases deadline <;> rfl
  | cons event later ih =>
    cases event with
    | data bytes => cases bytes <;> rfl
    | pause length =>
      have hpassed : clock + elapsed + length = clock + length + elapsed := Nat.add_right_comm _ _ _
      cases deadline with
      | none => exact (congrArg (await want none · later) hpassed).trans (ih (clock + length))
      | some limit =>
        simp only [await, Option.map_some, hpassed, Nat.add_lt_add_iff_right]
        split
        · rw [Nat.add_sub_add_right]
        · exact ih (clock + length)
    | fault fault => rfl
    | close => rfl

/-- Pauses make no difference to what is found. -/
theorem await_withoutPauses (want clock : Nat) (events : List PeerEvent) :
    await want none 0 (withoutPauses events) =
      ((await want none clock events).1, 0, withoutPauses (await want none clock events).2.2) := by
  induction events generalizing clock with
  | nil => rfl
  | cons event later ih =>
    cases event with
    | data bytes =>
      cases bytes with
      | nil => rfl
      | cons first rest => simp only [withoutPauses, await, withoutPauses_keepUnread]
    | pause length => exact ih (clock + length)
    | fault fault => rfl
    | close => rfl

/-! ### Waiting until more bytes are taken -/

/-- Without a deadline the pauses are waited through, and the time goes on by them. -/
theorem waitThrough_spends (total clock : Nat) (pauses : List WritePause) :
    ∃ passed left, waitThrough none total clock pauses = (true, passed, left) ∧ clock ≤ passed ∧
      passed + writePauseTime left = clock + writePauseTime pauses := by
  induction pauses generalizing clock with
  | nil => exact ⟨clock, [], rfl, Nat.le_refl _, rfl⟩
  | cons pause pauses ih =>
    by_cases hpause : total < pause.after
    · exact ⟨clock, pause :: pauses, if_pos hpause, Nat.le_refl _, rfl⟩
    · obtain ⟨passed, left, hwait, hclock, htime⟩ := ih (clock + pause.length)
      refine ⟨passed, left, ?_, Nat.le_of_add_right_le hclock, ?_⟩
      · simp only [waitThrough, if_neg hpause, hwait]
      · rw [htime, writePauseTime, Nat.add_assoc]

/-- Without a deadline the next pause that is left is one before later bytes. -/
theorem lt_after_of_waitThrough {passed : Nat} {left : List WritePause}
    (hwait : waitThrough none total clock pauses = (true, passed, left)) :
    ∀ pause ∈ left.head?, total < pause.after := by
  induction pauses generalizing clock with
  | nil =>
    cases hwait
    rintro _ ⟨⟩
  | cons pause pauses ih =>
    by_cases hpause : total < pause.after
    · simp only [waitThrough, if_pos hpause] at hwait
      cases hwait
      rintro _ ⟨⟩
      exact hpause
    · simp only [waitThrough, if_neg hpause] at hwait
      exact ih hwait

/-- Pauses that are over by the deadline are waited through. -/
theorem waitThrough_in_time (htime : (waitThrough none total clock pauses).2.1 ≤ limit) :
    waitThrough (some limit) total clock pauses = waitThrough none total clock pauses := by
  induction pauses generalizing clock with
  | nil => rfl
  | cons pause pauses ih =>
    by_cases hpause : total < pause.after
    · simp only [waitThrough, if_pos hpause]
    · obtain ⟨passed, left, hwait, hclock, -⟩ :=
        waitThrough_spends total (clock + pause.length) pauses
      simp only [waitThrough, if_neg hpause] at htime ⊢
      rw [if_neg (by rw [hwait] at htime; exact Nat.not_lt.2 (Nat.le_trans hclock htime))]
      exact ih htime

/-- Pauses that are not over by the deadline are waited through until the deadline. -/
theorem waitThrough_late (hclock : clock ≤ limit)
    (hlate : limit < (waitThrough none total clock pauses).2.1) :
    ∃ left, waitThrough (some limit) total clock pauses = (false, limit, left) := by
  induction pauses generalizing clock with
  | nil => exact absurd hlate (Nat.not_lt.2 hclock)
  | cons pause pauses ih =>
    by_cases hpause : total < pause.after
    · simp only [waitThrough, if_pos hpause] at hlate
      exact absurd hlate (Nat.not_lt.2 hclock)
    · simp only [waitThrough, if_neg hpause] at hlate ⊢
      split
      · exact ⟨_, rfl⟩
      · next hshort => exact ih (Nat.le_of_not_lt hshort) hlate

theorem waitThrough_later (deadline : Option Nat) (total clock elapsed : Nat)
    (pauses : List WritePause) :
    waitThrough (deadline.map (· + elapsed)) total (clock + elapsed) pauses =
      ((waitThrough deadline total clock pauses).1,
        (waitThrough deadline total clock pauses).2.1 + elapsed,
        (waitThrough deadline total clock pauses).2.2) := by
  induction pauses generalizing clock with
  | nil => rfl
  | cons pause pauses ih =>
    have hpassed : clock + elapsed + pause.length = clock + pause.length + elapsed :=
      Nat.add_right_comm _ _ _
    by_cases hpause : total < pause.after
    · simp only [waitThrough, if_pos hpause]
    · cases deadline with
      | none =>
        simp only [waitThrough, if_neg hpause, Option.map_none, hpassed]
        exact ih (clock + pause.length)
      | some limit =>
        simp only [waitThrough, if_neg hpause, Option.map_some, hpassed,
          Nat.add_lt_add_iff_right]
        split
        · rw [Nat.add_sub_add_right]
        · exact ih (clock + pause.length)

end Stream

/-- Something that a client does with a stream, with or without a deadline. -/
abbrev Timed (α : Type) : Type :=
  Option Nat → Stream → Except Error α × Stream

namespace Timed

variable {α β : Type} {first : Timed α} {next : α → Timed β}

/-- Does one thing and, if it comes out well, the next. Both have one deadline. -/
def andThen (first : Timed α) (next : α → Timed β) : Timed β := fun deadline stream =>
  match first deadline stream with
  | (.error failure, stream) => (.error failure, stream)
  | (.ok value, stream) => next value deadline stream

/-- What a deadline does: nothing, or it ends the waiting. Without a deadline, the time goes on by
the delays that are over, and the waiting is endless only if the peer does nothing more; what comes
out by the deadline comes out the same; otherwise the time-out comes at the deadline; and when it
all starts is no matter. -/
structure Timely (op : Timed α) : Prop where
  spends : ∀ stream : Stream, stream.clock ≤ (op none stream).2.clock ∧
    (op none stream).2.clock + (op none stream).2.delays = stream.clock + stream.delays
  silent : ∀ stream : Stream, (op none stream).1 = .error .requestTimeout →
    (op none stream).2.incoming = []
  inTime : ∀ (stream : Stream) (limit : Nat), (op none stream).1 ≠ .error .requestTimeout →
    (op none stream).2.clock ≤ limit → op (some limit) stream = op none stream
  late : ∀ (stream : Stream) (limit : Nat), stream.clock ≤ limit →
    ((op none stream).1 = .error .requestTimeout ∨ limit < (op none stream).2.clock) →
    ∃ stopped, op (some limit) stream = (.error .requestTimeout, stopped) ∧ stopped.clock = limit
  later : ∀ (deadline : Option Nat) (stream : Stream) (elapsed : Nat),
    op (deadline.map (· + elapsed)) (stream.later elapsed) =
      ((op deadline stream).1, (op deadline stream).2.later elapsed)

/-- Without a deadline, delays make no difference but to the clock. -/
def Undisturbed (op : Timed α) : Prop :=
  ∀ stream : Stream, op none stream.withoutDelays =
    ((op none stream).1, (op none stream).2.withoutDelays)

theorem andThen_of_error {deadline : Option Nat} {stream after : Stream} {failure : Error}
    (hfirst : first deadline stream = (.error failure, after)) :
    first.andThen next deadline stream = (.error failure, after) := by
  rw [andThen, hfirst]

theorem andThen_of_ok {deadline : Option Nat} {stream middle : Stream} {value : α}
    (hfirst : first deadline stream = (.ok value, middle)) :
    first.andThen next deadline stream = next value deadline middle := by
  rw [andThen, hfirst]

/-- What does not wait at all. -/
theorem timely_of_instant {op : Timed α} (act : Stream → Except Error α × Stream)
    (hop : ∀ deadline stream, op deadline stream = act stream)
    (htime : ∀ stream, (act stream).1 ≠ .error .requestTimeout ∧
      (act stream).2.clock = stream.clock ∧ (act stream).2.delays = stream.delays)
    (hlater : ∀ stream elapsed,
      act (stream.later elapsed) = ((act stream).1, (act stream).2.later elapsed)) :
    op.Timely where
  spends stream := by
    obtain ⟨-, hclock, hdelays⟩ := htime stream
    rw [hop, hclock, hdelays]
    exact ⟨Nat.le_refl _, rfl⟩
  silent stream hanswer := by
    rw [hop] at hanswer
    exact absurd hanswer (htime stream).1
  inTime stream limit _ _ := (hop _ _).trans (hop _ _).symm
  late stream limit hlimit hlate := by
    obtain ⟨hanswer, hclock, -⟩ := htime stream
    rw [hop, hclock] at hlate
    exact absurd hlate (not_or_intro hanswer (Nat.not_lt.2 hlimit))
  later deadline stream elapsed := by rw [hop, hop, hlater]

theorem timely_pure (value : α) : Timely fun _ stream => (.ok value, stream) := by
  refine timely_of_instant (fun stream => (.ok value, stream)) (fun _ _ => rfl) (fun stream => ?_)
    fun _ _ => rfl
  exact ⟨fun hanswer => (by cases hanswer), rfl, rfl⟩

theorem timely_fail {failure : Error} (hfailure : failure ≠ .requestTimeout) :
    Timely (fun _ stream => (.error failure, stream) : Timed α) := by
  refine timely_of_instant (fun stream => (.error failure, stream)) (fun _ _ => rfl)
    (fun stream => ?_) fun _ _ => rfl
  exact ⟨fun hanswer => hfailure (Except.error.inj hanswer), rfl, rfl⟩

/-- One deadline over two things, one after the other, is one deadline. -/
theorem Timely.andThen (hfirst : first.Timely) (hnext : ∀ value, (next value).Timely) :
    (first.andThen next).Timely where
  spends stream := by
    obtain ⟨hclock, htime⟩ := hfirst.spends stream
    rcases houtcome : first none stream with ⟨failure | value, middle⟩
    · rw [andThen_of_error houtcome]
      rw [houtcome] at hclock htime
      exact ⟨hclock, htime⟩
    · obtain ⟨hclock', htime'⟩ := (hnext value).spends middle
      rw [andThen_of_ok houtcome]
      rw [houtcome] at hclock htime
      exact ⟨Nat.le_trans hclock hclock', htime'.trans htime⟩
  silent stream hanswer := by
    rcases houtcome : first none stream with ⟨failure | value, middle⟩
    · have hsilent := hfirst.silent stream
      rw [andThen_of_error houtcome] at hanswer ⊢
      rw [houtcome] at hsilent
      cases hanswer
      exact hsilent rfl
    · rw [andThen_of_ok houtcome] at hanswer ⊢
      exact (hnext value).silent middle hanswer
  inTime stream limit hanswer hclock := by
    rcases houtcome : first none stream with ⟨failure | value, middle⟩
    · rw [andThen_of_error houtcome] at hanswer hclock ⊢
      have hsame := hfirst.inTime stream limit
      rw [houtcome] at hsame
      have hanswer' : (.error failure : Except Error α) ≠ .error .requestTimeout := by
        rintro ⟨⟩
        exact hanswer rfl
      exact andThen_of_error (hsame hanswer' hclock)
    · rw [andThen_of_ok houtcome] at hanswer hclock ⊢
      have hmiddle := ((hnext value).spends middle).1
      have hsame := hfirst.inTime stream limit
      rw [houtcome] at hsame
      rw [andThen_of_ok (hsame (fun herror => by cases herror) (Nat.le_trans hmiddle hclock))]
      exact (hnext value).inTime middle limit hanswer hclock
  late stream limit hlimit hlate := by
    -- The first thing is late itself, or it is over in time and the next one is late.
    by_cases hfirstLate : (first none stream).1 = .error .requestTimeout ∨
        limit < (first none stream).2.clock
    · obtain ⟨stopped, hstopped, hclock⟩ := hfirst.late stream limit hlimit hfirstLate
      exact ⟨stopped, andThen_of_error hstopped, hclock⟩
    · obtain ⟨hanswer, hclock⟩ := not_or.1 hfirstLate
      have hsame := hfirst.inTime stream limit hanswer (Nat.le_of_not_lt hclock)
      rcases houtcome : first none stream with ⟨failure | value, middle⟩
      · rw [andThen_of_error houtcome] at hlate
        rw [houtcome] at hanswer hclock
        rcases hlate with hlate | hlate
        · cases hlate
          exact absurd rfl hanswer
        · exact absurd hlate hclock
      · rw [houtcome] at hclock hsame
        rw [andThen_of_ok houtcome] at hlate
        rw [andThen_of_ok hsame]
        exact (hnext value).late middle limit (Nat.le_of_not_lt hclock) hlate
  later deadline stream elapsed := by
    have hlater := hfirst.later deadline stream elapsed
    rcases houtcome : first deadline stream with ⟨failure | value, middle⟩
    · rw [houtcome] at hlater
      rw [andThen_of_error houtcome, andThen_of_error hlater]
    · rw [houtcome] at hlater
      rw [andThen_of_ok houtcome, andThen_of_ok hlater]
      exact (hnext value).later deadline middle elapsed

theorem Undisturbed.andThen (hfirst : first.Undisturbed)
    (hnext : ∀ value, (next value).Undisturbed) : (first.andThen next).Undisturbed := by
  intro stream
  have hundisturbed := hfirst stream
  rcases houtcome : first none stream with ⟨failure | value, middle⟩
  · rw [houtcome] at hundisturbed
    rw [andThen_of_error houtcome, andThen_of_error hundisturbed]
  · rw [houtcome] at hundisturbed
    rw [andThen_of_ok houtcome, andThen_of_ok hundisturbed]
    exact hnext value middle

end Timed

end Countersign

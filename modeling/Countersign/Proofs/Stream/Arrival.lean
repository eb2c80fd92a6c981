/-
# Bytes that arrive

A stream without faults delivers the bytes of its peer in pieces, with pauses between them. How it
cuts them makes no difference: whoever has the time to wait for a number of bytes gets exactly
these, and leaves the others on the stream. What arrives only later does not change what was read.
-/

import Countersign.Proofs.Stream.Movement

namespace Countersign.Stream

/-- The events deliver the bytes in pieces that are not empty, with pauses of this length
altogether, and do nothing after the last one. -/
inductive Arrives : List PeerEvent → Bytes → Nat → Prop
  | nothing : Arrives [] [] 0
  | piece {first : UInt8} {rest bytes : Bytes} {wait : Nat} {later : List PeerEvent}
      (hlater : Arrives later bytes wait) :
      Arrives (.data (first :: rest) :: later) (first :: rest ++ bytes) wait
  | pause {length wait : Nat} {first : UInt8} {bytes : Bytes} {later : List PeerEvent}
      (hlater : Arrives later (first :: bytes) wait) :
      Arrives (.pause length :: later) (first :: bytes) (length + wait)

namespace Arrives

theorem brought_eq {events : List PeerEvent} {bytes : Bytes} {wait : Nat}
    (harrives : Arrives events bytes wait) : brought events = bytes := by
  induction harrives with
  | nothing => rfl
  | piece hlater ih => rw [brought_cons, PeerEvent.bytes, ih]
  | pause hlater ih => rw [brought_cons, PeerEvent.bytes, List.nil_append, ih]

/-- When no bytes are left, there is nothing to wait for. -/
theorem eq_nil {events : List PeerEvent} {wait : Nat} (harrives : Arrives events [] wait) :
    events = [] := by
  cases harrives
  rfl

/-- The rest of a piece that was read in part. -/
theorem keepUnread {unread bytes : Bytes} {wait : Nat} {later : List PeerEvent}
    (hlater : Arrives later bytes wait) :
    Arrives (Stream.keepUnread unread later) (unread ++ bytes) wait := by
  cases unread with
  | nil => exact hlater
  | cons first rest => exact .piece hlater

end Arrives

/-- Bytes on their way: the events that deliver them. -/
structure Delivery (bytes : Bytes) where
  events : List PeerEvent
  /-- How long the events pause altogether, in milliseconds. -/
  wait : Nat
  arrives : Arrives events bytes wait

/-- On a stream on which nothing is left, exactly the bytes on their way arrive. -/
theorem Delivery.arrives_receive {bytes : Bytes} (delivery : Delivery bytes) {stream : Stream}
    (hsilent : stream.incoming = []) :
    Arrives (stream.receive delivery.events).incoming bytes delivery.wait := by
  rw [receive, hsilent, List.nil_append]
  exact delivery.arrives

/-- Whoever has no deadline has all the time. -/
theorem le_of_mem_none (clock : Nat) : ∀ limit ∈ (none : Option Nat), clock ≤ limit := by
  intro limit hlimit
  cases hlimit

theorem le_of_mem_some {clock deadline : Nat} (htime : clock ≤ deadline) :
    ∀ limit ∈ some deadline, clock ≤ limit := by
  intro limit hlimit
  cases hlimit
  exact htime

/-- A read that has the time to wait finds some of the bytes that arrive, and leaves the others. -/
theorem await_of_arrives (want : Nat) {deadline : Option Nat} {clock wait : Nat}
    {events : List PeerEvent} {bytes : Bytes} (harrives : Arrives events bytes wait)
    (hsome : bytes ≠ []) (htime : ∀ limit ∈ deadline, clock + wait ≤ limit) :
    ∃ first rest unread clock' later wait',
      await want deadline clock events = (.bytes first rest, clock', later) ∧
        bytes = first :: rest ++ unread ∧ Arrives later unread wait' ∧
        clock' + wait' = clock + wait := by
  induction harrives generalizing clock with
  | nothing => exact absurd rfl hsome
  | @piece first rest bytes wait later hlater ih =>
    refine ⟨first, rest.take want, rest.drop want ++ bytes, clock, _, wait, rfl, ?_,
      hlater.keepUnread, rfl⟩
    rw [List.cons_append, List.cons_append, ← List.append_assoc, List.take_append_drop]
  | @pause length wait first bytes later hlater ih =>
    have hlater' : ∀ limit ∈ deadline, clock + length + wait ≤ limit := by
      intro limit hlimit
      have hlimit' := htime limit hlimit
      omega
    have hgo : await want deadline clock (.pause length :: later) =
        await want deadline (clock + length) later := by
      cases deadline with
      | none => rfl
      | some limit =>
        have hintime : ¬limit < clock + length := by
          have hlimit := htime limit rfl
          omega
        rw [await, if_neg hintime]
    obtain ⟨first', rest', unread, clock', later', wait', hawait, hbytes, hrest, hclock⟩ :=
      ih (List.cons_ne_nil _ _) hlater'
    exact ⟨first', rest', unread, clock', later', wait', hgo.trans hawait, hbytes, hrest, by omega⟩

theorem read_of_arrives (want : Nat) {deadline : Option Nat} {wait : Nat} {bytes : Bytes}
    {stream : Stream} (harrives : Arrives stream.incoming bytes wait) (hsome : bytes ≠ [])
    (htime : ∀ limit ∈ deadline, stream.clock + wait ≤ limit) :
    ∃ first rest unread clock incoming wait',
      stream.read want deadline = (.bytes first rest, { stream with clock, incoming }) ∧
        bytes = first :: rest ++ unread ∧ rest.length ≤ want ∧ Arrives incoming unread wait' ∧
        clock + wait' = stream.clock + wait := by
  obtain ⟨first, rest, unread, clock, incoming, wait', hawait, hbytes, hlater, hclock⟩ :=
    await_of_arrives want harrives hsome htime
  have hlength := length_found_await_le want deadline stream.clock stream.incoming
  rw [hawait, ReadOutcome.found, List.length_cons] at hlength
  refine ⟨first, rest, unread, clock, incoming, wait', ?_, hbytes, by omega, hlater, hclock⟩
  rw [read, hawait]

/-- Reading on gives exactly the bytes that are missing, when they arrive in time. -/
theorem readMore_of_arrives {deadline : Option Nat} {expected wait : Nat}
    {received bytes rest : Bytes} {stream : Stream}
    (harrives : Arrives stream.incoming (bytes ++ rest) wait)
    (hlength : received.length + bytes.length = expected)
    (htime : ∀ limit ∈ deadline, stream.clock + wait ≤ limit) :
    ∃ clock incoming wait',
      stream.readMore deadline expected received =
          (.ok (received ++ bytes), { stream with clock, incoming }) ∧
        Arrives incoming rest wait' ∧ clock + wait' = stream.clock + wait := by
  induction hsize : bytes.length using Nat.strongRecOn
    generalizing received bytes stream wait with
  | ind size ih =>
    by_cases hnone : bytes = []
    · subst hnone
      have hfull : ¬received.length < expected := by
        rw [List.length_nil] at hlength
        omega
      refine ⟨stream.clock, stream.incoming, wait, ?_, harrives, rfl⟩
      rw [readMore, if_neg hfull, List.append_nil]
    · have hpos : 0 < bytes.length := List.length_pos_iff.2 hnone
      have hsome : bytes ++ rest ≠ [] := List.append_ne_nil_of_left_ne_nil hnone rest
      obtain ⟨first, found, unread, clock, incoming, wait', hread, hbytes, hwant, hlater, hclock⟩ :=
        read_of_arrives (expected - received.length - 1) harrives hsome htime
      -- What was found is a part of what is missing, since no more was asked for.
      have hpart : first :: found <+: bytes := by
        refine List.prefix_of_prefix_length_le ⟨unread, hbytes.symm⟩ ⟨rest, rfl⟩ ?_
        rw [List.length_cons]
        omega
      obtain ⟨missing, rfl⟩ := hpart
      rw [List.append_assoc, List.append_cancel_left_eq] at hbytes
      subst hbytes
      rw [List.length_append, List.length_cons] at hlength hsize
      have hsum : (received ++ first :: found).length + missing.length = expected := by
        rw [List.length_append, List.length_cons]
        omega
      have htime' : ∀ limit ∈ deadline, clock + wait' ≤ limit := by
        rw [hclock]
        exact htime
      have hnext : Arrives { stream with clock, incoming }.incoming (missing ++ rest) wait' :=
        hlater
      obtain ⟨clock', incoming', wait'', hmore, hleft, hclock'⟩ :=
        ih missing.length (by omega) hnext hsum htime' rfl
      refine ⟨clock', incoming', wait'', ?_, hleft, hclock'.trans hclock⟩
      rw [List.append_assoc] at hmore
      rw [readMore, if_pos (by omega), hread]
      exact hmore

/-- Whoever waits for the next bytes gets them, and the bytes after them still arrive. -/
theorem readExactly_of_arrives {deadline : Option Nat} {wait : Nat} {bytes rest : Bytes}
    {stream : Stream} (harrives : Arrives stream.incoming (bytes ++ rest) wait)
    (htime : ∀ limit ∈ deadline, stream.clock + wait ≤ limit) :
    ∃ clock incoming wait',
      stream.readExactly deadline bytes.length = (.ok bytes, { stream with clock, incoming }) ∧
        Arrives incoming rest wait' ∧ clock + wait' = stream.clock + wait := by
  have hlength : ([] : Bytes).length + bytes.length = bytes.length := Nat.zero_add _
  exact readMore_of_arrives harrives hlength htime

/-! ### What arrives later -/

theorem keepUnread_append (unread : Bytes) (later more : List PeerEvent) :
    keepUnread unread later ++ more = keepUnread unread (later ++ more) := by
  cases unread with
  | nil => rfl
  | cons first rest => rfl

/-- A read that finds bytes does not look at what comes after them. -/
theorem await_append {want : Nat} {deadline : Option Nat} {clock clock' : Nat}
    {events later : List PeerEvent} {first : UInt8} {rest : Bytes} (more : List PeerEvent)
    (hawait : await want deadline clock events = (.bytes first rest, clock', later)) :
    await want deadline clock (events ++ more) = (.bytes first rest, clock', later ++ more) := by
  fun_induction await want deadline clock events with
  | case1 clock => cases hawait
  | case2 clock later => cases hawait
  | case3 clock first rest later =>
    cases hawait
    rw [keepUnread_append]
    rfl
  | case4 clock fault later => cases hawait
  | case5 clock later => cases hawait
  | case6 clock length later hpatient ih =>
    subst hpatient
    exact ih hawait
  | case7 clock length later limit hlimit hlate => cases hawait
  | case8 clock length later limit hlimit hintime ih =>
    subst hlimit
    rw [List.cons_append, await, if_neg hintime]
    exact ih hawait

theorem read_receive {want : Nat} {deadline : Option Nat} {stream next : Stream} {first : UInt8}
    {rest : Bytes} (more : List PeerEvent)
    (hread : stream.read want deadline = (.bytes first rest, next)) :
    (stream.receive more).read want deadline = (.bytes first rest, next.receive more) := by
  generalize hawait : await want deadline stream.clock stream.incoming = found at hread
  obtain ⟨outcome, clock, later⟩ := found
  rw [read, hawait] at hread
  cases hread
  rw [read, show await want deadline (stream.receive more).clock (stream.receive more).incoming =
    (.bytes first rest, clock, later ++ more) from await_append more hawait]
  rfl

/-- Bytes that were read are read all the same when more arrives after them. -/
theorem readMore_receive {deadline : Option Nat} {expected : Nat} {received bytes : Bytes}
    {stream after : Stream} (more : List PeerEvent)
    (hread : stream.readMore deadline expected received = (.ok bytes, after)) :
    (stream.receive more).readMore deadline expected received =
      (.ok bytes, after.receive more) := by
  fun_induction readMore deadline expected received stream with
  | case1 received stream hless first found next hfound ih =>
    rw [readMore, if_pos hless, read_receive more hfound]
    exact ih hread
  | case2 received stream hless next hfound => cases hread
  | case3 received stream hless fault next hfound => cases hread
  | case4 received stream hless next hfound => cases hread
  | case5 received stream hless =>
    cases hread
    rw [readMore, if_neg hless]

end Countersign.Stream

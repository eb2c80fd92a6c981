/-
# Writing on a steady stream

A steady stream takes every byte that is written, at once, in pieces of any size. So writing on it
does nothing but append the bytes, and it stays steady. What the peer does is no matter.
-/

import Countersign.Proofs.Stream.Movement

namespace Countersign.Stream

/-- Pauses that only divide what is written into pieces. -/
def Instant (pauses : List WritePause) : Prop :=
  ∀ pause ∈ pauses, pause.length = 0

/-- The stream takes what is written without delay and without a failure. -/
structure Steady (stream : Stream) : Prop where
  takes : stream.pieceLimit ≠ some 0
  writes : stream.writeFailure = none
  flushes : stream.flushFailure = none
  instant : Instant stream.writePauses

variable {deadline : Option Nat} {stream : Stream}

theorem waitThrough_of_instant {clock : Nat} (total : Nat) {pauses : List WritePause}
    (hinstant : Instant pauses) (htime : ∀ limit ∈ deadline, clock ≤ limit) :
    ∃ later, waitThrough deadline total clock pauses = (true, clock, later) ∧ Instant later ∧
      ∀ pause ∈ later.head?, total < pause.after := by
  induction pauses with
  | nil =>
    refine ⟨[], rfl, hinstant, ?_⟩
    intro pause hpause
    cases hpause
  | cons pause pauses ih =>
    have hzero : pause.length = 0 := hinstant pause List.mem_cons_self
    by_cases hlater : total < pause.after
    · refine ⟨pause :: pauses, by simp only [waitThrough, if_pos hlater], hinstant, ?_⟩
      intro next hnext
      cases hnext
      exact hlater
    · obtain ⟨later, hwait, hrest⟩ :=
        ih fun next hnext => hinstant next (List.mem_cons_of_mem pause hnext)
      refine ⟨later, ?_, hrest⟩
      cases deadline with
      | none =>
        simp only [waitThrough, if_neg hlater, hzero, Nat.add_zero]
        exact hwait
      | some limit =>
        have hintime : ¬limit < clock := Nat.not_lt.2 (htime limit rfl)
        simp only [waitThrough, if_neg hlater, hzero, Nat.add_zero, if_neg hintime]
        exact hwait

theorem becomeReady_of_steady (total : Nat) (hsteady : stream.Steady)
    (htime : ∀ limit ∈ deadline, stream.clock ≤ limit) :
    ∃ writePauses,
      stream.becomeReady deadline total = (.ok (), { stream with writePauses }) ∧
        Instant writePauses ∧ ∀ pause ∈ writePauses.head?, total < pause.after := by
  obtain ⟨later, hwait, hinstant, hready⟩ :=
    waitThrough_of_instant total hsteady.instant htime
  refine ⟨later, ?_, hinstant, hready⟩
  rw [becomeReady, hwait]

/-- A write that has become ready can take at least one byte. -/
theorem pieceLength_ne_zero {total offered : Nat} (htakes : stream.pieceLimit ≠ some 0)
    (hready : ∀ pause ∈ stream.writePauses.head?, total < pause.after) (hsome : offered ≠ 0) :
    stream.pieceLength total offered ≠ 0 := by
  cases hlimit : stream.pieceLimit with
  | none =>
    cases hpauses : stream.writePauses with
    | nil => simp only [pieceLength, hlimit, hpauses]; exact hsome
    | cons pause later =>
      have hafter := hready pause (by rw [hpauses]; rfl)
      simp only [pieceLength, hlimit, hpauses]
      omega
  | some limit =>
    have hlimit' : limit ≠ 0 := by
      intro hzero
      exact htakes (by rw [hlimit, hzero])
    cases hpauses : stream.writePauses with
    | nil =>
      simp only [pieceLength, hlimit, hpauses]
      omega
    | cons pause later =>
      have hafter := hready pause (by rw [hpauses]; rfl)
      simp only [pieceLength, hlimit, hpauses]
      omega

/-- A write that has become ready takes at least one byte. -/
theorem acceptOnce_of_steady {total offered : Nat} (hsteady : stream.Steady)
    (hready : ∀ pause ∈ stream.writePauses.head?, total < pause.after) (hsome : offered ≠ 0) :
    ∃ more, stream.acceptOnce total offered = .ok (more + 1) := by
  obtain ⟨more, hmore⟩ :=
    Nat.exists_eq_succ_of_ne_zero (pieceLength_ne_zero hsteady.takes hready hsome)
  refine ⟨more, ?_⟩
  rw [acceptOnce, hsteady.writes, hmore]

theorem acceptAll_of_steady (total offered : Nat) (hsteady : stream.Steady)
    (htime : ∀ limit ∈ deadline, stream.clock ≤ limit) :
    ∃ writePauses,
      stream.acceptAll deadline total offered = (offered, .ok (), { stream with writePauses }) ∧
        Instant writePauses := by
  induction offered using Nat.strongRecOn generalizing total stream with
  | ind size ih =>
    by_cases hnone : size = 0
    · refine ⟨stream.writePauses, ?_, hsteady.instant⟩
      rw [acceptAll, if_pos hnone, hnone]
    · obtain ⟨writePauses, hwait, hinstant, hready⟩ := becomeReady_of_steady total hsteady htime
      have hnext : Steady { stream with writePauses } :=
        ⟨hsteady.takes, hsteady.writes, hsteady.flushes, hinstant⟩
      obtain ⟨more, haccept⟩ := acceptOnce_of_steady hnext hready hnone
      have hle := le_of_acceptOnce_eq_ok haccept
      obtain ⟨writePauses', hrest, hinstant'⟩ :=
        ih (size - (more + 1)) (by omega) (total + more + 1) hnext htime
      refine ⟨writePauses', ?_, hinstant'⟩
      rw [acceptAll, if_neg hnone, hwait]
      simp only [haccept, hrest]
      rw [show more + 1 + (size - (more + 1)) = size by omega]

/-- Writing on a steady stream appends the bytes. -/
theorem writeAll_of_steady (bytes : Bytes) (hsteady : stream.Steady)
    (htime : ∀ limit ∈ deadline, stream.clock ≤ limit) :
    ∃ writePauses,
      stream.writeAll deadline bytes =
          (.ok (), { stream with writePauses, written := stream.written ++ bytes }) ∧
        Instant writePauses := by
  obtain ⟨writePauses, haccept, hinstant⟩ :=
    acceptAll_of_steady stream.written.length bytes.length hsteady htime
  refine ⟨writePauses, ?_, hinstant⟩
  rw [writeAll, haccept]
  simp only [List.take_length]

theorem flush_of_steady (hsteady : stream.Steady)
    (htime : ∀ limit ∈ deadline, stream.clock ≤ limit) :
    ∃ writePauses,
      stream.flush deadline = (.ok (), { stream with writePauses }) ∧ Instant writePauses := by
  obtain ⟨writePauses, hwait, hinstant, -⟩ :=
    becomeReady_of_steady stream.written.length hsteady htime
  refine ⟨writePauses, ?_, hinstant⟩
  rw [flush, hwait]
  simp only [hsteady.flushes]

/-! ### Writing while something arrives -/

theorem becomeReady_receive (deadline : Option Nat) (total : Nat) (stream : Stream)
    (more : List PeerEvent) :
    (stream.receive more).becomeReady deadline total =
      ((stream.becomeReady deadline total).1,
        (stream.becomeReady deadline total).2.receive more) := by
  generalize hwait : waitThrough deadline total stream.clock stream.writePauses = outcome
  have hwait' : waitThrough deadline total (stream.receive more).clock
      (stream.receive more).writePauses = outcome := hwait
  obtain ⟨ready, clock, pauses⟩ := outcome
  rw [becomeReady, becomeReady, hwait, hwait']
  cases ready <;> rfl

/-- A change of a stream that interferes neither with waiting nor with a single write does not
interfere with writing. -/
theorem acceptAll_map {change : Stream → Stream}
    (hready : ∀ (total : Nat) (stream : Stream), (change stream).becomeReady deadline total =
      ((stream.becomeReady deadline total).1, change (stream.becomeReady deadline total).2))
    (haccept : ∀ (total offered : Nat) (stream : Stream),
      (change stream).acceptOnce total offered = stream.acceptOnce total offered)
    (total offered : Nat) (stream : Stream) :
    (change stream).acceptAll deadline total offered =
      ((stream.acceptAll deadline total offered).1, (stream.acceptAll deadline total offered).2.1,
        change (stream.acceptAll deadline total offered).2.2) := by
  fun_induction acceptAll deadline total offered stream with
  | case1 total stream => rw [acceptAll, if_pos rfl]
  | case2 total offered stream hoffered failure next hwait =>
    rw [acceptAll, if_neg hoffered, hready, hwait]
  | case3 total offered stream hoffered next hwait fault hfault =>
    rw [acceptAll, if_neg hoffered, hready, hwait]
    simp only [haccept, hfault]
  | case4 total offered stream hoffered next hwait hnone =>
    rw [acceptAll, if_neg hoffered, hready, hwait]
    simp only [haccept, hnone]
  | case5 total offered stream hoffered next hwait piece hpiece taken outcome after hrest ih =>
    rw [hrest] at ih
    rw [acceptAll, if_neg hoffered, hready, hwait]
    simp only [haccept, hpiece, ih]

/-- Writing and what arrives meanwhile do not interfere. -/
theorem writeAll_receive (deadline : Option Nat) (bytes : Bytes) (stream : Stream)
    (more : List PeerEvent) :
    (stream.receive more).writeAll deadline bytes =
      ((stream.writeAll deadline bytes).1, (stream.writeAll deadline bytes).2.receive more) := by
  have haccept := acceptAll_map (fun total stream => becomeReady_receive deadline total stream more)
    (fun _ _ _ => rfl) stream.written.length bytes.length stream
  rw [writeAll, writeAll, show (stream.receive more).written = stream.written from rfl, haccept]
  rfl

end Countersign.Stream

/-
# Reading from memory in place

A byte string that is read from the front has no places, so nothing can be read outside it. Memory
does: a decoder that is given a slice of it looks at places that it computes, and a place outside
the slice ends the program. So does a sum or a difference that the machine has no number for. Here
such work is told apart from refusing the bytes, and a decoder that works in place is said to follow
a reader if it comes to the same refusal, or to the same value and the place at which the reader's
rest stands. Whatever follows a reader has not ended the program.

The steps below check what the machine checks and nothing more. That a decoder never gets there is
due to the conditions that it asks for itself, before each step.
-/

import Countersign.Proofs.Wire.InPlace

namespace Countersign

/-- What ends a program where it stands. -/
inductive Trap where
  /-- It was about to look at a place outside the memory. -/
  | outside
  /-- It came to a number that the machine does not have. -/
  | overflow
  /-- It was in a loop for more rounds than it was given. -/
  | endless
  deriving DecidableEq, Repr

/-- Why work on memory stops early. -/
inductive Stop (ε : Type) where
  /-- The bytes are refused. -/
  | refused (cause : ε)
  /-- The program ends. -/
  | trapped (trap : Trap)
  deriving DecidableEq, Repr

/-- What work on memory comes to. -/
abbrev InPlace (ε α : Type) : Type :=
  Except (Stop ε) α

section Steps

variable {ε α : Type}

/-- Refuses the bytes. -/
def refuse (cause : ε) : InPlace ε α :=
  .error (.refused cause)

/-- Ends the program. -/
def endBy (trap : Trap) : InPlace ε α :=
  .error (.trapped trap)

/-- An outcome that may be a refusal, but never ends the program. -/
def safely (outcome : Except ε α) : InPlace ε α :=
  outcome.mapError .refused

/-- The byte at a place. -/
def byteAt (place : Nat) (memory : Bytes) : InPlace ε UInt8 :=
  match memory[place]? with
  | some byte => .ok byte
  | none => endBy .outside

/-- The slice from a place on. -/
def sliceFrom (place : Nat) (memory : Bytes) : InPlace ε Bytes :=
  if memory.length < place then endBy .outside else .ok (memory.drop place)

/-- The slice up to a place. -/
def sliceTo (place : Nat) (memory : Bytes) : InPlace ε Bytes :=
  if memory.length < place then endBy .outside else .ok (memory.take place)

/-- A sum, if the machine has a number for it. -/
def plus (first second : Nat) : InPlace ε Nat :=
  if first + second < UInt64.size then .ok (first + second) else endBy .overflow

/-- A difference, if it is not below zero. -/
def minus (first second : Nat) : InPlace ε Nat :=
  if first < second then endBy .overflow else .ok (first - second)

theorem byteAt_of_getElem? {place : Nat} {memory : Bytes} {byte : UInt8}
    (hbyte : memory[place]? = some byte) : byteAt place memory = (.ok byte : InPlace ε UInt8) := by
  rw [byteAt, hbyte]

theorem sliceFrom_of_le {place : Nat} {memory : Bytes} (hplace : place ≤ memory.length) :
    sliceFrom place memory = (.ok (memory.drop place) : InPlace ε Bytes) :=
  if_neg (Nat.not_lt.2 hplace)

theorem sliceTo_of_le {place : Nat} {memory : Bytes} (hplace : place ≤ memory.length) :
    sliceTo place memory = (.ok (memory.take place) : InPlace ε Bytes) :=
  if_neg (Nat.not_lt.2 hplace)

theorem plus_of_lt {first second : Nat} (hsum : first + second < UInt64.size) :
    plus first second = (.ok (first + second) : InPlace ε Nat) :=
  if_pos hsum

theorem minus_of_le {first second : Nat} (hle : second ≤ first) :
    minus first second = (.ok (first - second) : InPlace ε Nat) :=
  if_neg (Nat.not_lt.2 hle)

/-- What may only be refused has not ended the program. -/
theorem safely_ne_endBy (outcome : Except ε α) (trap : Trap) : safely outcome ≠ endBy trap := by
  intro htrapped
  cases outcome <;> cases htrapped

theorem safely_bind {β : Type} (outcome : Except ε α) (next : α → Except ε β) :
    safely (outcome >>= next) = safely outcome >>= fun value => safely (next value) := by
  cases outcome <;> rfl

theorem safely_ite {condition : Prop} [Decidable condition] (first second : Except ε α) :
    safely (if condition then first else second) =
      if condition then safely first else safely second := by
  split <;> rfl

/-- What work comes to, for a program that takes note of a refusal and goes on. -/
def outcomeOf {δ : Type} : InPlace ε α → InPlace δ (Except ε α)
  | .error (.trapped trap) => endBy trap
  | .error (.refused cause) => .ok (.error cause)
  | .ok value => .ok (.ok value)

@[simp]
theorem outcomeOf_safely {δ : Type} (outcome : Except ε α) :
    outcomeOf (safely outcome) = (.ok outcome : InPlace δ (Except ε α)) := by
  cases outcome <;> rfl

/-- Writing into memory as a part of such work. -/
def storing : Except Fault α → InPlace WireError α
  | .error .outside => endBy .outside
  | .error (.refused cause) => refuse cause
  | .ok value => .ok value

@[simp]
theorem storing_inside (outcome : Except WireError α) :
    storing (inside outcome) = safely outcome := by
  cases outcome <;> rfl

-- Outside its own conditions, every step ends the program.
example : (byteAt 0 [] : InPlace WireError UInt8) = .error (.trapped .outside) := rfl
example : (minus 1 2 : InPlace WireError Nat) = .error (.trapped .overflow) := rfl

end Steps

/-- Memory that a program can have: no byte string is longer than half of what the machine can
count. -/
def Addressable (memory : Bytes) : Prop :=
  2 * memory.length < UInt64.size

/-- These bytes stand in memory from a place on, up to its end. -/
structure StandsAt (memory : Bytes) (place : Nat) (rest : Bytes) : Prop where
  inside : place ≤ memory.length
  drop_eq : memory.drop place = rest

namespace StandsAt

variable {memory rest after : Bytes} {place count : Nat}

theorem start (memory : Bytes) : StandsAt memory 0 memory :=
  ⟨Nat.zero_le _, rfl⟩

theorem place_add_length (hstands : StandsAt memory place rest) :
    place + rest.length = memory.length := by
  have hinside := hstands.inside
  rw [← hstands.drop_eq, List.length_drop]
  omega

theorem sliceFrom_eq {ε : Type} (hstands : StandsAt memory place rest) :
    sliceFrom place memory = (.ok rest : InPlace ε Bytes) := by
  rw [sliceFrom_of_le hstands.inside, hstands.drop_eq]

theorem getElem?_add (hstands : StandsAt memory place rest) (offset : Nat) :
    memory[place + offset]? = rest[offset]? := by
  rw [← hstands.drop_eq, List.getElem?_drop]

/-- Nothing is left exactly at the end of the memory. -/
theorem place_eq_length_iff (hstands : StandsAt memory place rest) :
    place = memory.length ↔ rest = [] := by
  have hlength := hstands.place_add_length
  rw [← List.length_eq_zero_iff]
  omega

/-- What stands in the rest stands in the memory, further on. -/
theorem trans (hstands : StandsAt memory place rest) (hafter : StandsAt rest count after) :
    StandsAt memory (place + count) after where
  inside := by
    have hlength := hstands.place_add_length
    have hinside := hafter.inside
    omega
  drop_eq := by rw [← List.drop_drop, hstands.drop_eq, hafter.drop_eq]

/-- Behind bytes of the rest stands what follows them. -/
theorem append {front : Bytes} (hstands : StandsAt memory place (front ++ rest)) :
    StandsAt memory (place + front.length) rest :=
  hstands.trans ⟨by simp, List.drop_left⟩

theorem addressable (hstands : StandsAt memory place rest) (hmemory : Addressable memory) :
    Addressable rest := by
  have hlength := hstands.place_add_length
  unfold Addressable at hmemory ⊢
  omega

/-- The machine has a number for every place, and for a few beyond the end. -/
theorem plus_eq {ε : Type} (hstands : StandsAt memory place rest) (hmemory : Addressable memory)
    (hcount : count ≤ rest.length + 1024) :
    plus place count = (.ok (place + count) : InPlace ε Nat) := by
  have hlength := hstands.place_add_length
  have hsize : UInt64.size = 18446744073709551616 := rfl
  unfold Addressable at hmemory
  exact plus_of_lt (by omega)

end StandsAt

/-- Work on memory comes to what a reader comes to: the same refusal, or the same value with the
place at which the reader's rest stands. -/
inductive Follows {ε α : Type} (memory : Bytes) :
    InPlace ε (α × Nat) → Except ε (α × Bytes) → Prop
  | refused (cause : ε) : Follows memory (refuse cause) (.error cause)
  | found (value : α) {place : Nat} {rest : Bytes} (hstands : StandsAt memory place rest) :
      Follows memory (.ok (value, place)) (.ok (value, rest))

/-- A decoder that works in place follows a reader on all memory. -/
def Decodes {ε α : Type} (work : Bytes → InPlace ε (α × Nat))
    (read : Bytes → Except ε (α × Bytes)) : Prop :=
  ∀ memory, Addressable memory → Follows memory (work memory) (read memory)

section Following

variable {ε α β γ : Type} {memory rest : Bytes} {place : Nat}

/-- Counts what was consumed towards a place. -/
def advance (place : Nat) (work : InPlace ε (α × Nat)) : InPlace ε (α × Nat) := do
  let (value, count) ← work
  let place ← plus place count
  .ok (value, place)

/-- Hands the memory from a place on to a decoder, and moves the place behind what it consumes. -/
def readAt (work : Bytes → InPlace ε (α × Nat)) (memory : Bytes) (place : Nat) :
    InPlace ε (α × Nat) := do
  let slice ← sliceFrom place memory
  advance place (work slice)

namespace Follows

/-- What work that follows a reader has come to, and the reader with it. -/
theorem cases {work : InPlace ε (α × Nat)} {found : Except ε (α × Bytes)}
    (hwork : Follows memory work found) :
    (∃ cause, work = refuse cause ∧ found = .error cause) ∨
      ∃ value place rest, StandsAt memory place rest ∧ work = .ok (value, place) ∧
        found = .ok (value, rest) := by
  cases hwork with
  | refused cause => exact Or.inl ⟨cause, rfl, rfl⟩
  | found value hstands => exact Or.inr ⟨value, _, _, hstands, rfl, rfl⟩

/-- Work goes on in place as reading goes on, from wherever it has come. -/
theorem andThen {work : InPlace ε (α × Nat)} {found : Except ε (α × Bytes)}
    (hwork : Follows memory work found) {next : α × Nat → InPlace ε (β × Nat)}
    {after : α × Bytes → Except ε (β × Bytes)}
    (hnext : ∀ value place rest, StandsAt memory place rest →
      Follows memory (next (value, place)) (after (value, rest))) :
    Follows memory (work >>= next) (found >>= after) := by
  cases hwork with
  | refused cause => exact .refused cause
  | found value hstands => exact hnext value _ _ hstands

/-- A check that touches no memory is the same in place. -/
theorem checked {outcome : Except ε γ} {next : γ → InPlace ε (α × Nat)}
    {after : γ → Except ε (α × Bytes)}
    (hnext : ∀ value, outcome = .ok value → Follows memory (next value) (after value)) :
    Follows memory (safely outcome >>= next) (outcome >>= after) := by
  cases outcome with
  | error cause => exact .refused cause
  | ok value => exact hnext value rfl

/-- Both refuse under the same condition, and work goes on as reading does without it. -/
theorem guarded {condition condition' : Prop} [Decidable condition] [Decidable condition']
    {cause : ε} {work : InPlace ε (α × Nat)} {found : Except ε (α × Bytes)}
    (hsame : condition ↔ condition') (hwork : ¬condition → Follows memory work found) :
    Follows memory (if condition then refuse cause else work)
      (if condition' then .error cause else found) := by
  by_cases hcondition : condition
  · rw [if_pos hcondition, if_pos (hsame.1 hcondition)]
    exact .refused cause
  · rw [if_neg hcondition, if_neg (mt hsame.2 hcondition)]
    exact hwork hcondition

/-- What follows a reader on the rest follows it in the memory as well. -/
theorem advanced {work : InPlace ε (α × Nat)} {found : Except ε (α × Bytes)}
    (hwork : Follows rest work found) (hstands : StandsAt memory place rest)
    (hmemory : Addressable memory) : Follows memory (advance place work) found := by
  cases hwork with
  | refused cause => exact .refused cause
  | found value hafter =>
    have hinside := hafter.inside
    have hplus := @StandsAt.plus_eq _ _ _ _ ε hstands hmemory (Nat.le_add_right_of_le hinside)
    simp only [advance, bind, Except.bind, hplus]
    exact .found value (hstands.trans hafter)

/-- Work that follows a reader has come to what the reader says, with the number of bytes that the
reader has consumed. -/
theorem eq_safely {work : InPlace ε (α × Nat)} {found : Except ε (α × Bytes)}
    (hwork : Follows memory work found) :
    work = safely (found.map fun (value, rest) => (value, memory.length - rest.length)) := by
  cases hwork with
  | refused cause => rfl
  | @found value place rest hstands =>
    have hlength := hstands.place_add_length
    have hcount : memory.length - rest.length = place := Nat.sub_eq_of_eq_add hlength.symm
    simp only [Except.map, hcount]
    rfl

/-- What follows a reader stays inside the memory. -/
theorem place_le {work : InPlace ε (α × Nat)} {found : Except ε (α × Bytes)}
    (hwork : Follows memory work found) {value : α} {place : Nat}
    (hplace : work = .ok (value, place)) : place ≤ memory.length := by
  cases hwork with
  | refused cause => cases hplace
  | found value hstands =>
    cases hplace
    exact hstands.inside

end Follows

/-- A decoder does not end the program on this memory. It refuses what its reader refuses, and
otherwise it finds what the reader finds and has consumed as many bytes, which were all there. -/
structure SafeOn (memory : Bytes) (work : Bytes → InPlace ε (α × Nat))
    (read : Bytes → Except ε (α × Bytes)) : Prop where
  ne_endBy : ∀ trap, work memory ≠ endBy trap
  eq_safely : work memory =
    safely ((read memory).map fun (value, rest) => (value, memory.length - rest.length))
  consumed_le : ∀ value count, work memory = .ok (value, count) → count ≤ memory.length

theorem Decodes.safeOn {work : Bytes → InPlace ε (α × Nat)} {read : Bytes → Except ε (α × Bytes)}
    (hdecodes : Decodes work read) (hmemory : Addressable memory) : SafeOn memory work read where
  ne_endBy trap := by
    rw [(hdecodes memory hmemory).eq_safely]
    exact safely_ne_endBy _ trap
  eq_safely := (hdecodes memory hmemory).eq_safely
  consumed_le _ _ hfound := (hdecodes memory hmemory).place_le hfound

/-- A decoder follows its reader from any place of the memory. -/
theorem Decodes.readAt {work : Bytes → InPlace ε (α × Nat)} {read : Bytes → Except ε (α × Bytes)}
    (hdecodes : Decodes work read) (hmemory : Addressable memory)
    (hstands : StandsAt memory place rest) :
    Follows memory (readAt work memory place) (read rest) := by
  simp only [Countersign.readAt, hstands.sliceFrom_eq, bind, Except.bind]
  exact (hdecodes rest (hstands.addressable hmemory)).advanced hstands hmemory

end Following

end Countersign

/-
# Runs of a device

A run hands a device one byte string after the other, each with the random values that the device
may need for it, and keeps the answers. Nothing is asked of the byte strings: a run may restart
transactions, repeat itself and contain commands that no client would send.

The history of a run is the list of its turns. What a turn has carried out is read off the turn
alone, so that a claim about histories does not mention the state of the device.
-/

import Countersign.Proofs.Device.Step

namespace Countersign

/-- One byte string that a device handled, with the answer to it. -/
structure Turn where
  command : Bytes
  reply : Reply
  deriving DecidableEq, Repr

/-- An instruction with the parameter and the data that it came with. -/
structure Deed where
  instruction : Instruction
  p2 : UInt8
  data : Bytes
  deriving DecidableEq, Repr

/-- What was carried out in a turn; nothing if the command was refused. -/
def Turn.deed? (turn : Turn) : Option Deed :=
  match turn.reply.status, Device.readCommand turn.command with
  | .success, .ok (instruction, command) => some ⟨instruction, command.p2, command.data⟩
  | _, _ => none

namespace Device

open Refusal

variable {S : SignatureScheme}

/-- Handles byte strings one after the other: the device left, and the history. -/
def run (device : Device S) : List (Draw × Bytes) → Device S × List Turn
  | [] => (device, [])
  | (draw, bytes) :: inputs =>
    let (next, reply) := device.handle draw bytes
    let (last, turns) := next.run inputs
    (last, ⟨bytes, reply⟩ :: turns)

/-- A run goes on where the run before it has ended. -/
theorem run_append (device : Device S) (earlier later : List (Draw × Bytes)) :
    device.run (earlier ++ later) =
      (((device.run earlier).1.run later).1,
        (device.run earlier).2 ++ ((device.run earlier).1.run later).2) := by
  induction earlier generalizing device with
  | nil => rfl
  | cons input earlier ih =>
    obtain ⟨draw, bytes⟩ := input
    simp only [List.cons_append, run, ih]

/-- What one turn does to a device. -/
inductive Handles (device : Device S) (draw : Draw) (turn : Turn) : Device S → Prop
  /-- The command was carried out. -/
  | carried {instruction : Instruction} {p2 : UInt8} {data answer : Bytes} {next : Device S}
      (hdeed : turn.deed? = some ⟨instruction, p2, data⟩) (hanswer : turn.reply.data = answer)
      (hcarries : Carries device draw p2 data instruction next answer) :
      Handles device draw turn next
  /-- The bytes were a command of the device, and it was refused. -/
  | refused {instruction : Instruction} {command : Command} (hdeed : turn.deed? = none)
      (hempty : turn.reply.data = [])
      (hread : readCommand turn.command = .ok (instruction, command)) :
      Handles device draw turn (device.afterRefusal draw instruction)
  /-- The bytes were no command of the device. -/
  | unread {refusal : Refusal} (hdeed : turn.deed? = none) (hempty : turn.reply.data = [])
      (hread : readCommand turn.command = .error refusal) : Handles device draw turn device

theorem genuine_readCommand (bytes : Bytes) : Genuine (readCommand bytes) := by
  unfold readCommand
  split
  · exact genuine_error (by decide)
  · split
    · exact genuine_error (by decide)
    · split
      · exact genuine_error (by decide)
      · exact genuine_ok _

/-- A turn whose status is not success has carried nothing out. -/
theorem deed?_eq_none_of_status_ne {turn : Turn} (hstatus : turn.reply.status ≠ .success) :
    turn.deed? = none := by
  unfold Turn.deed?
  split
  · next hsuccess _ => exact absurd hsuccess hstatus
  · rfl

/-- Whatever bytes a device gets, its turn is one of the three cases. -/
theorem handles_handle (device : Device S) (draw : Draw) (bytes : Bytes) :
    Handles device draw ⟨bytes, (device.handle draw bytes).2⟩ (device.handle draw bytes).1 := by
  cases hread : readCommand bytes with
  | error refusal =>
    have hhandle : device.handle draw bytes = (device, .refuse refusal) := by
      simp only [handle, hread]
    have hstatus := genuine_readCommand bytes refusal hread
    rw [hhandle]
    exact .unread (deed?_eq_none_of_status_ne hstatus) rfl hread
  | ok found =>
    obtain ⟨instruction, command⟩ := found
    have hhandle : device.handle draw bytes =
        device.perform draw instruction command.p2 command.data := by
      simp only [handle, hread]
    have hperforms := performs_perform device draw instruction command.p2 command.data
    rw [hhandle]
    generalize device.perform draw instruction command.p2 command.data = outcome at hperforms
    cases hperforms with
    | @carried next answer hcarries =>
      have hdeed : (⟨bytes, .accept answer⟩ : Turn).deed? =
          some ⟨instruction, command.p2, command.data⟩ := by
        simp only [Turn.deed?, Reply.accept, hread]
      exact .carried hdeed rfl hcarries
    | refused hstatus => exact .refused (deed?_eq_none_of_status_ne hstatus) rfl hread

/-- What a turn says it has carried out was carried out. -/
theorem Handles.exists_carries {device next : Device S} {draw : Draw} {turn : Turn} {deed : Deed}
    (hhandles : Handles device draw turn next) (hdeed : turn.deed? = some deed) :
    ∃ answer, Carries device draw deed.p2 deed.data deed.instruction next answer := by
  cases hhandles with
  | carried hcarried _ hcarries =>
    rw [hdeed] at hcarried
    cases hcarried
    exact ⟨_, hcarries⟩
  | refused hnone _ _ =>
    rw [hdeed] at hnone
    cases hnone
  | unread hnone _ _ =>
    rw [hdeed] at hnone
    cases hnone

/-- A run passes through every split of its history: the turn at the split is a turn of the device
that the part before it has left. -/
theorem exists_handles_of_run_eq_append {device : Device S} {inputs : List (Draw × Bytes)}
    {before after : List Turn} {turn : Turn}
    (hsplit : (device.run inputs).2 = before ++ turn :: after) :
    ∃ earlier draw next, (device.run earlier).2 = before ∧
      Handles (device.run earlier).1 draw turn next := by
  induction before generalizing device inputs with
  | nil =>
    cases inputs with
    | nil => cases hsplit
    | cons input inputs =>
      obtain ⟨draw, bytes⟩ := input
      cases hsplit
      exact ⟨[], draw, _, rfl, handles_handle device draw bytes⟩
  | cons first before ih =>
    cases inputs with
    | nil => cases hsplit
    | cons input inputs =>
      obtain ⟨draw, bytes⟩ := input
      have hfirst := (List.cons.inj hsplit).1
      obtain ⟨earlier, draw', next, hbefore, hturn⟩ := ih (List.cons.inj hsplit).2
      refine ⟨(draw, bytes) :: earlier, draw', next, ?_, hturn⟩
      rw [← hfirst, ← hbefore]
      rfl

end Device

end Countersign

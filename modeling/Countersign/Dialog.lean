/-
# Dialogs

A program that talks to the world is a dialog: it is done, or it asks a question and goes on with
the answer. What the questions are and who answers them is left open, so that the same dialog can
be held with a device in memory, with a scripted stream, or with the world outside.
-/

namespace Countersign

/-- A program that asks questions, each with its own kind of answer, and ends in a result. -/
inductive Dialog {Question : Type} (Answer : Question → Type) (α : Type) where
  | done (result : α)
  | ask (question : Question) (next : Answer question → Dialog Answer α)

namespace Dialog

variable {Question : Type} {Answer : Question → Type} {α β : Type}

/-- The dialog that goes on with what the first one ends in. -/
def bind : Dialog Answer α → (α → Dialog Answer β) → Dialog Answer β
  | done result, next => next result
  | ask question rest, next => ask question fun answer => (rest answer).bind next

instance : Monad (Dialog Answer) where
  pure := done
  bind := bind

/-- The dialog that asks one question and ends in its answer. -/
def question (question : Question) : Dialog Answer (Answer question) :=
  ask question done

/-- Holds a dialog with somebody who answers the questions in turn. -/
def hold {m : Type → Type} [Monad m] (answer : (question : Question) → m (Answer question)) :
    Dialog Answer α → m α
  | done result => pure result
  | ask question next => do
    let reply ← answer question
    (next reply).hold answer

/-- Going on with nothing changes nothing. -/
theorem bind_done (dialog : Dialog Answer α) : dialog.bind done = dialog := by
  induction dialog with
  | done result => rfl
  | ask question rest ih => simp only [bind, ih]

/-- Dialogs in a row can be grouped in any way. -/
theorem bind_assoc {γ : Type} (dialog : Dialog Answer α) (first : α → Dialog Answer β)
    (second : β → Dialog Answer γ) :
    (dialog.bind first).bind second = dialog.bind fun result => (first result).bind second := by
  induction dialog with
  | done result => rfl
  | ask question rest ih => simp only [bind, ih]

end Dialog

end Countersign

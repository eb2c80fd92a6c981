/-
# Control sequences

A text can hold sequences that address the terminal instead of its reader: an escape character and
what follows it, up to the character that ends the sequence. What somebody else has written is
shown without them, and without the other control characters that are not white space.

White space inside a short sequence is shown. It interrupts the sequence: what follows is shown as
well, until the next control character.
-/

namespace Countersign.Text

/-- How far a control sequence has been read. -/
inductive ControlSequence where
  /-- Outside every sequence. -/
  | outside
  /-- After the escape character. -/
  | begun
  /-- After an escape character and punctuation: one more character ends the sequence. -/
  | designating
  /-- In the parameters of a function, which the letter of the function ends. -/
  | parameters
  /-- Before the parameters in front of a message to the device. -/
  | header
  /-- In the numbers in front of a message to the device. -/
  | headerNumbers
  /-- In the punctuation that ends the parameters in front of a message to the device. -/
  | headerPunctuation
  /-- In a message to the device or to another program, or in one with a malformed header. -/
  | message
  /-- In a title, which a bell ends. -/
  | title
  deriving DecidableEq, Repr

/-- White space that is a control character as well. -/
def isControlBlank (c : Char) : Bool :=
  c = '\t' ∨ c = '\n' ∨ c = '\x0c' ∨ c = '\x0d'

/-- Whether a character is shown outside control sequences. -/
def isShown (c : Char) : Bool :=
  isControlBlank c ∨ (0x20 ≤ c.toNat ∧ c.toNat ≠ 0x7f)

/-- Whether the byte that terminates messages stands in the written form of a character. -/
def holdsTerminator (c : Char) : Bool :=
  (String.utf8EncodeChar c).contains 0x9c

namespace ControlSequence

/-- Whether white space is shown here. -/
def isShort : ControlSequence → Bool
  | begun | designating | parameters => true
  | outside | header | headerNumbers | headerPunctuation | message | title => false

/-- How far the sequence is read after one more character of it. -/
def follow (c : Char) : ControlSequence → ControlSequence
  | outside => outside
  | begun =>
    if c = '[' then parameters
    else if c = ']' then title
    else if c = 'P' then header
    else if c = 'X' ∨ c = '^' ∨ c = '_' then message
    else if ' ' ≤ c ∧ c ≤ '/' then designating
    else if '0' ≤ c ∧ c ≤ '~' then outside
    else begun
  | designating => if '0' ≤ c ∧ c ≤ '~' then outside else designating
  | parameters => if '@' ≤ c ∧ c ≤ '~' then outside else parameters
  | header =>
    if ' ' ≤ c ∧ c ≤ '/' then headerPunctuation
    else if '0' ≤ c ∧ c ≤ '?' then headerNumbers
    else if '@' ≤ c ∧ c ≤ '~' then message
    else header
  | headerNumbers =>
    if ' ' ≤ c ∧ c ≤ '/' then headerPunctuation
    else if '<' ≤ c ∧ c ≤ '~' then message
    else headerNumbers
  | headerPunctuation => if '0' ≤ c ∧ c ≤ '~' then message else headerPunctuation
  | message => if holdsTerminator c then outside else message
  | title => if c = '\x07' then outside else title

/-- What is shown of a text. An escape character begins a sequence anywhere, and two other
characters end one anywhere. -/
def shown : (sequence : ControlSequence) → (interrupted : Bool) → List Char → List Char
  | _, _, [] => []
  | sequence, interrupted, c :: rest =>
    if c = '\x1b' then shown begun false rest
    else if c = '\x18' ∨ c = '\x1a' then shown outside false rest
    else if sequence = outside ∨ interrupted then
      if isShown c then c :: shown (if c.toNat < 0x80 then sequence else outside) interrupted rest
      else shown sequence false rest
    else if sequence.isShort ∧ isControlBlank c then c :: shown sequence true rest
    else shown (sequence.follow c) false rest

/-- Nothing but characters to be shown is shown. -/
theorem isShown_of_mem_shown {sequence : ControlSequence} {interrupted : Bool} {c : Char}
    {text : List Char} (member : c ∈ shown sequence interrupted text) : isShown c = true := by
  induction text generalizing sequence interrupted with
  | nil => simp [shown] at member
  | cons first rest ih =>
    rw [shown] at member
    split at member
    · exact ih member
    · split at member
      · exact ih member
      · split at member
        · split at member
          · next isFirstShown =>
            rcases List.mem_cons.1 member with same | later
            · exact same ▸ isFirstShown
            · exact ih later
          · exact ih member
        · split at member
          · next blank =>
            rcases List.mem_cons.1 member with same | later
            · simp [isShown, same, blank.2]
            · exact ih later
          · exact ih member

end ControlSequence

/-- A text without its control sequences. -/
def withoutControls (text : String) : String :=
  String.ofList (ControlSequence.shown .outside false text.toList)

end Countersign.Text

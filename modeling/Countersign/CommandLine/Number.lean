/-
# Numbers on the command line

A number is read from the left, and the first thing that is wrong decides how it is refused: a
character that is no digit, or a digit with which the number no longer fits.
-/

namespace Countersign.CommandLine

/-- Why a text is not a number. -/
inductive NumberFault where
  | empty
  | invalidDigit
  | tooLarge
  | tooSmall
  deriving DecidableEq, Repr

/-- The text shown for a refused number. -/
def NumberFault.message : NumberFault → String
  | empty => "cannot parse integer from empty string"
  | invalidDigit => "invalid digit found in string"
  | tooLarge => "number too large to fit in target type"
  | tooSmall => "number too small to fit in target type"

/-- Takes in one more digit of a number that may not exceed the limit. -/
def addDigit (limit : Nat) (overflow : NumberFault) (number : Nat) (digit : Char) :
    Except NumberFault Nat :=
  if digit.isDigit then
    let next := number * 10 + (digit.toNat - 48)
    if limit < next then .error overflow else .ok next
  else .error .invalidDigit

/-- The number with these digits. -/
def readDigits (limit : Nat) (overflow : NumberFault) (digits : List Char) :
    Except NumberFault Nat :=
  digits.foldlM (addDigit limit overflow) 0

/-- The signed 64-bit number with this text. -/
def readSigned (text : String) : Except NumberFault Int :=
  match text.toList with
  | [] => .error .empty
  | ['+'] | ['-'] => .error .invalidDigit
  | '-' :: digits =>
    (readDigits 0x8000000000000000 .tooSmall digits).map fun number => -(number : Int)
  | '+' :: digits | digits =>
    (readDigits 0x7fffffffffffffff .tooLarge digits).map fun number => (number : Int)

/-- The unsigned 64-bit number with this text. -/
def readUnsigned (text : String) : Except NumberFault Nat :=
  match text.toList with
  | [] => .error .empty
  | ['+'] => .error .invalidDigit
  | '+' :: digits | digits => readDigits 0xffffffffffffffff .tooLarge digits

/-- The number up to `upper` with this text, or the reason for its refusal. A number out of range
is named in the reason. -/
def readUpTo (upper : Nat) (text : String) : Except String Nat :=
  match readSigned text with
  | .error fault => .error fault.message
  | .ok number =>
    if 0 ≤ number ∧ number ≤ upper then .ok number.toNat
    else .error (toString number ++ " is not in 0..=" ++ toString upper)

/-- The unsigned 64-bit number with this text, or the reason for its refusal. -/
def readUpToMax (text : String) : Except String Nat :=
  (readUnsigned text).mapError NumberFault.message

end Countersign.CommandLine

/-
# Network addresses

An address is four numbers with points between them, or eight groups of hexadecimal digits with
colons between them. In the second form one run of zero groups may be left out, and the last two
groups may be written as an address of the first form. Writing leaves out the longest run of at
least two zero groups, the first one where several are equally long.
-/

import Countersign.Text.Quoted

namespace Countersign

/-- An address of a host. -/
inductive IpAddress where
  | v4 (first second third fourth : UInt8)
  | v6 (groups : Vector UInt16 8)
  deriving DecidableEq, Repr

namespace IpAddress

/-- The value of a digit, decimal or hexadecimal in either case. -/
def digitValue? (base : Nat) (digit : Char) : Option Nat :=
  let value :=
    if digit.isDigit then digit.toNat - 48
    else if 'a' ≤ digit ∧ digit ≤ 'f' then digit.toNat - 87
    else if 'A' ≤ digit ∧ digit ≤ 'F' then digit.toNat - 55
    else base
  if value < base then some value else none

/-- The number at the front of a text: all digits there, of which there may not be too many. -/
def readNumber? (base maxDigits : Nat) (text : List Char) : Option (Nat × List Char) :=
  let digits := text.takeWhile fun digit => (digitValue? base digit).isSome
  if digits.isEmpty ∨ maxDigits < digits.length then none
  else
    let number := digits.foldl (fun high digit => high * base + (digitValue? base digit).getD 0) 0
    some (number, text.drop digits.length)

/-- The number below 256 at the front of a text, without superfluous zeros. -/
def readOctet? (text : List Char) : Option (UInt8 × List Char) := do
  let (number, rest) ← readNumber? 10 3 text
  let superfluous := text.head? = some '0' ∧ rest.length + 1 < text.length
  if superfluous ∨ 255 < number then none else some (UInt8.ofNat number, rest)

/-- What follows a separator at the front of a text. -/
def afterSeparator? (separator : Char) : List Char → Option (List Char)
  | [] => none
  | first :: rest => if first = separator then some rest else none

/-- The four numbers at the front of a text. -/
def readFour? (text : List Char) : Option ((UInt8 × UInt8 × UInt8 × UInt8) × List Char) := do
  let (first, rest) ← readOctet? text
  let (second, rest) ← readOctet? (← afterSeparator? '.' rest)
  let (third, rest) ← readOctet? (← afterSeparator? '.' rest)
  let (fourth, rest) ← readOctet? (← afterSeparator? '.' rest)
  some ((first, second, third, fourth), rest)

/-- The group of two bytes. -/
def groupOf (high low : UInt8) : UInt16 :=
  UInt16.ofNat (high.toNat * 256 + low.toNat)

/-- At most `room` groups at the front of a text, whether the last two were four numbers, and the
rest of the text. Four numbers end the groups, and need room for two. -/
def readGroups : (room : Nat) → (isFirst : Bool) → List Char → List UInt16 × Bool × List Char
  | 0, _, text => ([], false, text)
  | room + 1, isFirst, text =>
    match (if isFirst then some text else afterSeparator? ':' text) with
    | none => ([], false, text)
    | some body =>
      match (if room = 0 then none else readFour? body) with
      | some ((first, second, third, fourth), rest) =>
        ([groupOf first second, groupOf third fourth], true, rest)
      | none =>
        match readNumber? 16 4 body with
        | none => ([], false, text)
        | some (group, rest) =>
          let (groups, four, rest) := readGroups room false rest
          (UInt16.ofNat group :: groups, four, rest)

/-- The address of these groups, with zeros between front and back. -/
def ofGroups (front back : List UInt16) : IpAddress :=
  let zeros := List.replicate (8 - front.length - back.length) 0
  let groups := front ++ zeros ++ back
  .v6 (Vector.ofFn fun index => groups.getD index.val 0)

/-- The eight groups at the front of a text. -/
def readEight? (text : List Char) : Option (IpAddress × List Char) :=
  let (front, four, rest) := readGroups 8 true text
  if front.length = 8 then some (ofGroups front [], rest)
  else if four then none
  else
    match rest with
    | ':' :: ':' :: rest =>
      let (back, _, rest) := readGroups (7 - front.length) true rest
      some (ofGroups front back, rest)
    | _ => none

/-- The address with this text. -/
def ofText? (text : String) : Option IpAddress :=
  match readFour? text.toList with
  | some ((first, second, third, fourth), rest) =>
    if rest.isEmpty then some (.v4 first second third fourth) else none
  | none =>
    match readEight? text.toList with
    | some (address, []) => some address
    | _ => none

/-- Four numbers with points between them. -/
def fourText (first second third fourth : UInt8) : String :=
  ".".intercalate ([first, second, third, fourth].map fun number => toString number.toNat)

/-- Groups with colons between them. -/
def groupsText (groups : List UInt16) : String :=
  ":".intercalate (groups.map fun group => Text.hexDigits group.toNat)

/-- Where the longest run of zero groups begins and how long it is. -/
def longestZeros (groups : List UInt16) : Nat × Nat :=
  (List.range groups.length).foldl (fun (start, length) index =>
    let run := ((groups.drop index).takeWhile (· == 0)).length
    if length < run then (index, run) else (start, length)) (0, 0)

/-- Eight groups with the longest run of zeros left out. Addresses that stand for one of the first
form keep that form at the end. -/
def eightText (groups : List UInt16) : String :=
  match groups with
  | [0, 0, 0, 0, 0, 0xffff, high, low] =>
    "::ffff:" ++ fourText (UInt8.ofNat (high.toNat / 256)) (UInt8.ofNat high.toNat)
      (UInt8.ofNat (low.toNat / 256)) (UInt8.ofNat low.toNat)
  | groups =>
    let (start, length) := longestZeros groups
    if length < 2 then groupsText groups
    else groupsText (groups.take start) ++ "::" ++ groupsText (groups.drop (start + length))

/-- An address as it is shown. -/
def text : IpAddress → String
  | v4 first second third fourth => fourText first second third fourth
  | v6 groups => eightText groups.toList

/-- The address of the host itself. -/
def loopback : IpAddress :=
  v4 127 0 0 1

end IpAddress

/-- A port on a host. -/
structure Endpoint where
  address : IpAddress
  port : UInt16
  deriving DecidableEq, Repr

/-- The port on which a device listens when nothing else is said. -/
def defaultPort : UInt16 := 9999

/-- An endpoint as it is shown. Addresses with colons stand in brackets. -/
def Endpoint.text (endpoint : Endpoint) : String :=
  let port := toString endpoint.port.toNat
  match endpoint.address with
  | .v4 .. => endpoint.address.text ++ ":" ++ port
  | .v6 _ => "[" ++ endpoint.address.text ++ "]:" ++ port

end Countersign

/-!
# Numbers on the command line

An option that takes a number takes decimal digits, with an optional plus sign before them, and the
number has to fit 64 bits. The digits are read from the left, and the first one that does not fit
decides what is wrong with them.
-/

namespace DatagramEcho.CommandLine

/-- Why a text is no number. -/
inductive NumberFault where
  /-- It is empty. -/
  | empty
  /-- It holds something that is no digit. -/
  | invalidDigit
  /-- The number does not fit 64 bits. -/
  | tooLarge
  deriving Repr, DecidableEq

/-- The text of a fault for readers. -/
def NumberFault.message : NumberFault → String
  | empty => "cannot parse integer from empty string"
  | invalidDigit => "invalid digit found in string"
  | tooLarge => "number too large to fit in target type"

/-- Every number on the command line is below this bound. -/
def numberBound : Nat := UInt64.size

/-- One more digit behind a number. -/
def appendDigit (number : Nat) (c : Char) : Except NumberFault Nat :=
  let next := number * 10 + (c.toNat - '0'.toNat)
  if !c.isDigit then .error .invalidDigit
  else if next < numberBound then .ok next
  else .error .tooLarge

/-- The number that a text spells. -/
def readNumber (text : String) : Except NumberFault Nat :=
  match text.toList with
  | [] => .error .empty
  | ['+'] => .error .invalidDigit
  | '+' :: digits => digits.foldlM appendDigit 0
  | digits => digits.foldlM appendDigit 0

end DatagramEcho.CommandLine

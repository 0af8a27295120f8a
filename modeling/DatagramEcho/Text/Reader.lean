/-!
# Text readers

A reader takes a value from the front of a text and returns it with what is left. This module has
the readers for single characters and for numbers in a given base.
-/

namespace DatagramEcho

/-- Takes a value from the front of a text and returns it with what is left. -/
abbrev TextReader (α : Type) := List Char → Option (α × List Char)

namespace TextReader

/-- The value of a digit in a base of at most sixteen, in either case. -/
def digitValue? (base : Nat) (c : Char) : Option Nat :=
  let value? : Option Nat :=
    if '0' ≤ c ∧ c ≤ '9' then some (c.toNat - '0'.toNat)
    else if 'a' ≤ c ∧ c ≤ 'f' then some (c.toNat - 'a'.toNat + 10)
    else if 'A' ≤ c ∧ c ≤ 'F' then some (c.toNat - 'A'.toNat + 10)
    else none
  value?.filter (· < base)

/-- The values of the digits at the front of a text, and what follows them. -/
def digits (base : Nat) (text : List Char) : List Nat × List Char :=
  let isDigit (c : Char) := (digitValue? base c).isSome
  ((text.takeWhile isDigit).filterMap (digitValue? base), text.dropWhile isDigit)

/-- The number that digits spell, the most significant one first. -/
def numberOf (base : Nat) (digits : List Nat) : Nat :=
  digits.foldl (fun number digit => number * base + digit) 0

/-- The number that digits spell, or `bound` if it is not below it. -/
def numberUpTo (bound : Nat) (base : Nat) (digits : List Nat) : Nat :=
  digits.foldl (fun number digit => min bound (number * base + digit)) 0

/-- One given character. -/
def exactly (expected : Char) : TextReader Unit
  | c :: rest => if c = expected then some ((), rest) else none
  | [] => none

/-- A number below `bound` without a sign. `zeros` allows zeros before the number, and `most`
limits the count of digits. -/
def number (base : Nat) (bound : Nat) (zeros : Bool) (most : Option Nat) : TextReader Nat :=
  fun input =>
    let (values, rest) := digits base input
    let value := numberUpTo bound base values
    if values.isEmpty then none
    else if most.any (values.length > ·) then none
    else if !zeros && values.length > 1 && values.head? == some 0 then none
    else if value < bound then some (value, rest)
    else none

end TextReader

end DatagramEcho

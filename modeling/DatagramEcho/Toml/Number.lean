import DatagramEcho.Toml.Mistake
import DatagramEcho.Toml.Value

/-!
# TOML numbers

Whole numbers are decimal with an optional sign, or hexadecimal, octal or binary without one, and
have to fit 64 bits. A decimal number has no superfluous zero in front. Floating-point numbers have
a fraction, an exponent, or both; `inf` and `nan` may have a sign. A single underscore may stand
between two digits.

A floating-point number that is too large is refused, and one that is too small becomes infinite.
Of an exponent the digits count until it has reached `exponentBound`.
-/

namespace DatagramEcho.Toml

open TextReader

/-- The values of further digits, any of which may follow an underscore. `values` are those of the
digits before them, the last one first. -/
def moreDigits (base : Nat) (values : List Nat) : Reader (List Nat)
  | '_' :: c :: rest =>
    match digitValue? base c with
    | some value => moreDigits base (value :: values) rest
    | none => .error { place := c :: rest, expected := ["digit"], settled := true }
  | ['_'] => .error { place := [], expected := ["digit"], settled := true }
  | c :: rest =>
    match digitValue? base c with
    | some value => moreDigits base (value :: values) rest
    | none => .ok (values.reverse, c :: rest)
  | [] => .ok (values.reverse, [])

/-- One or more digits, with underscores between them. -/
def digitsReader (base : Nat) : Reader (List Nat)
  | c :: rest =>
    match digitValue? base c with
    | some value => moreDigits base [value] rest
    | none => .error { place := c :: rest }
  | [] => .error { place := [] }

/-- A sign, if there is one: whether it is a minus, and the text after it. -/
def sign : List Char → Bool × List Char
  | '+' :: rest => (false, rest)
  | '-' :: rest => (true, rest)
  | input => (false, input)

/-- The digits of a decimal number: a single zero, or digits that do not start with zero. -/
def decimalDigits : Reader (List Nat)
  | '0' :: rest => .ok ([0], rest)
  | input => digitsReader 10 input

/-- A decimal whole number of any size: whether it is negative, and its digits. -/
def decimalReader : Reader (Bool × List Nat) := fun input => do
  let (negative, rest) := sign input
  let (digits, rest) ← (decimalDigits rest).mapError (·.about "integer")
  return ((negative, digits), rest)

/-- No whole number is as large as this bound. -/
def integerBound : Nat := UInt64.size

/-- A number that was read from `place` on as an integer of 64 bits. -/
def fitInteger (place : List Char) (value : Int) : Except Mistake Value :=
  let bound : Int := (integerBound / 2 : Nat)
  if value ≥ bound then .error { place, cause := some .tooLarge, settled := true }
  else if value < -bound then .error { place, cause := some .tooSmall, settled := true }
  else .ok (.integer value)

/-- The digits after the mark of a base, as a whole number. `place` is the place of the mark. -/
def basedReader (base : Nat) (subject : String) (place : List Char) : Reader Value :=
  fun input => do
    let (digits, rest) ← (digitsReader base input).mapError fun m => (m.about subject).settle
    let value ← fitInteger place (numberUpTo integerBound base digits)
    return (value, rest)

/-- A whole number. -/
def integerReader : Reader Value
  | '0' :: 'x' :: rest => basedReader 16 "hexadecimal integer" ('0' :: 'x' :: rest) rest
  | '0' :: 'o' :: rest => basedReader 8 "octal integer" ('0' :: 'o' :: rest) rest
  | '0' :: 'b' :: rest => basedReader 2 "binary integer" ('0' :: 'b' :: rest) rest
  | input => do
    let ((negative, digits), rest) ← decimalReader input
    let magnitude : Int := numberUpTo integerBound 10 digits
    let value ← fitInteger input (if negative then -magnitude else magnitude)
    return (value, rest)

/-- The digits after a decimal point. -/
def fraction : Reader (List Nat)
  | '.' :: rest => (digitsReader 10 rest).mapError fun m => (m.expecting ["digit"]).settle
  | input => .error { place := input }

/-- Further digits of an exponent that has reached this bound do not count. -/
def exponentBound : Nat := UInt16.size

/-- The exponent that digits spell. -/
def exponentOf (digits : List Nat) : Nat :=
  digits.foldl (fun number digit =>
    if number < exponentBound then number * 10 + digit else number) 0

/-- A power of ten. -/
def exponent : Reader Int := fun input => do
  let (_, rest) ← Reader.one (fun c => c == 'e' || c == 'E') input
  let (negative, rest) := sign rest
  let (digits, rest) ← Reader.settled (digitsReader 10) rest
  let magnitude : Int := exponentOf digits
  return (if negative then -magnitude else magnitude, rest)

/-- The part of a number that makes it a floating-point one: the decimals and the power of ten. -/
def fractionOrExponent : Reader (List Nat × Int) :=
  Reader.orElse
    (fun input => do
      let (power, rest) ← exponent input
      return (([], power), rest))
    (fun input => do
      let (places, rest) ← fraction input
      let (power, rest) ← Reader.attempt exponent rest
      return ((places, power.getD 0), rest))

/-- A floating-point number with digits. -/
def finiteReader : Reader Value := fun input => do
  let ((negative, whole), rest) ← decimalReader input
  let ((places, power), rest) ← fractionOrExponent rest
  let value := Binary64.ofDigits negative (whole ++ places) (power - places.length)
  if value = .infinite false then throw { place := input, settled := true }
  return (.float value, rest)

/-- An infinity, or no number. -/
def specialReader : Reader Value := fun input =>
  match sign input with
  | (negative, 'i' :: 'n' :: 'f' :: rest) => .ok (.float (.infinite negative), rest)
  | (_, 'n' :: 'a' :: 'n' :: rest) => .ok (.float .notANumber, rest)
  | (_, place) => .error { place }

/-- A floating-point number. -/
def floatReader : Reader Value :=
  (finiteReader.orElse specialReader).mapMistake (·.about "floating-point number")

end DatagramEcho.Toml

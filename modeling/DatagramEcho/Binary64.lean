import DatagramEcho.Text.Reader

/-!
# Binary floating-point numbers

Numbers with a mantissa of 53 bits, held exactly as a mantissa and a power of two. `ofDecimal` and
`ofDigits` take the number nearest to a decimal one; of two equally near ones they take the one with
an even mantissa. `text` goes back: it has the fewest decimal digits that still determine the
number.
-/

namespace DatagramEcho

/-- A floating-point number of 64 bits. -/
inductive Binary64 where
  /-- The number `mantissa * 2 ^ exponent`, or its opposite. -/
  | finite (negative : Bool) (mantissa : Nat) (exponent : Int)
  /-- One of the two infinities. -/
  | infinite (negative : Bool)
  /-- No number. -/
  | notANumber
  deriving Repr, DecidableEq

namespace Binary64

/-- The least exponent of a number. -/
def minExponent : Int := -1074

/-- The greatest exponent of a number. -/
def maxExponent : Int := 971

/-- Every mantissa is below this power of two. -/
def mantissaBound : Nat := Nat.pow 2 53

/-- `numerator / denominator / 2 ^ exponent` as a fraction of natural numbers. -/
def scaled (numerator denominator : Nat) (exponent : Int) : Nat × Nat :=
  (numerator * Nat.pow 2 (-exponent).toNat, denominator * Nat.pow 2 exponent.toNat)

/-- The whole number nearest to a fraction, the even one of two. -/
def roundEven (numerator denominator : Nat) : Nat :=
  let whole := numerator / denominator
  let twice := 2 * (numerator % denominator)
  if twice > denominator ∨ (twice = denominator ∧ whole % 2 = 1) then whole + 1 else whole

/-- The number nearest to a positive fraction. -/
def ofRatio (negative : Bool) (numerator denominator : Nat) : Binary64 :=
  let guess : Int := max ((numerator.log2 : Int) - (denominator.log2 : Int) - 53) minExponent
  let (a, b) := scaled numerator denominator guess
  let exponent := if a / b < mantissaBound then guess else guess + 1
  let (a, b) := scaled numerator denominator exponent
  let mantissa := roundEven a b
  let (mantissa, exponent) :=
    if mantissa < mantissaBound then (mantissa, exponent) else (mantissa / 2, exponent + 1)
  if exponent > maxExponent then infinite negative else finite negative mantissa exponent

/-- The number nearest to `digits * 10 ^ exponent`, or to its opposite. Decimal exponents beyond the
range of the format decide the result by themselves. -/
def ofDecimal (negative : Bool) (digits : Nat) (exponent : Int) : Binary64 :=
  let magnitude : Int := (Nat.toDigits 10 digits).length + exponent
  if digits = 0 then finite negative 0 minExponent
  else if magnitude > 310 then infinite negative
  else if magnitude < -330 then finite negative 0 minExponent
  else ofRatio negative (digits * Nat.pow 10 exponent.toNat) (Nat.pow 10 (-exponent).toNat)

/-- How many digits of a number decide where it lies between two neighbours of the format. -/
def significantDigits : Nat := 800

/-- The number nearest to the one that decimal digits spell, the most significant one first, times
`10 ^ exponent`. The bounds between the neighbours of the format end within `significantDigits`, so
that of the digits behind them it only counts whether there is one that is not zero. -/
def ofDigits (negative : Bool) (digits : List Nat) (exponent : Int) : Binary64 :=
  let digits := digits.dropWhile (· = 0)
  let tail := digits.drop significantDigits
  let kept := TextReader.numberOf 10 (digits.take significantDigits)
  let exponent := exponent + tail.length
  if tail.all (· = 0) then ofDecimal negative kept exponent
  else ofDecimal negative (kept * 10 + 1) (exponent - 1)

/-- A decimal number `digits * 10 ^ exponent`. -/
structure Decimal where
  /-- The digits, as one number. -/
  digits : Nat
  /-- The power of ten. -/
  exponent : Int
  deriving Repr, DecidableEq

/-- A number with the bounds between which every decimal reads back as that number, all four times
over and divided by the same power of two. -/
structure Neighbourhood where
  /-- The lower bound. -/
  low : Nat
  /-- The number itself. -/
  value : Nat
  /-- The upper bound. -/
  high : Nat
  /-- The power of two by which all three are divided. -/
  denominator : Nat
  /-- Whether the bounds themselves read back as the number. -/
  closed : Bool

/-- The neighbourhood of a positive number. Below a power of two the numbers lie closer together. -/
def neighbourhood (mantissa : Nat) (exponent : Int) : Neighbourhood :=
  let scale := Nat.pow 2 (exponent - 2).toNat
  let below := if mantissa = mantissaBound / 2 ∧ exponent > minExponent then 1 else 2
  { low := (4 * mantissa - below) * scale
    value := 4 * mantissa * scale
    high := (4 * mantissa + 2) * scale
    denominator := Nat.pow 2 (2 - exponent).toNat
    closed := mantissa % 2 = 0 }

namespace Neighbourhood

/-- Whether a decimal number reads back as the number. -/
def contains (n : Neighbourhood) (decimal : Decimal) : Bool :=
  let point := decimal.digits * Nat.pow 10 decimal.exponent.toNat * n.denominator
  let unit := Nat.pow 10 (-decimal.exponent).toNat
  if n.closed then n.low * unit ≤ point && point ≤ n.high * unit
  else n.low * unit < point && point < n.high * unit

/-- The number of digits before the decimal point, or minus the number of zeros after it. -/
def magnitude (n : Neighbourhood) : Int :=
  if n.value ≥ n.denominator then (Nat.toDigits 10 (n.value / n.denominator)).length
  else
    let zeros :=
      (List.range 400).find? fun zeros => n.value * Nat.pow 10 (zeros + 1) ≥ n.denominator
    0 - (zeros.getD 0 : Int)

/-- The decimal number on the grid of `10 ^ exponent` that is nearest to the number, among the two
around it that read back. Of two equally near ones it is the greater. -/
def nearestOnGrid? (n : Neighbourhood) (exponent : Int) : Option Decimal :=
  let numerator := n.value * Nat.pow 10 (-exponent).toNat
  let denominator := n.denominator * Nat.pow 10 exponent.toNat
  let below : Decimal := ⟨numerator / denominator, exponent⟩
  let above : Decimal := ⟨numerator / denominator + 1, exponent⟩
  let remainder := numerator % denominator
  match n.contains below, n.contains above with
  | true, true => some (if 2 * remainder ≥ denominator then above else below)
  | true, false => some below
  | false, true => some above
  | false, false => none

/-- The decimal number with the fewest digits that reads back as the number. Seventeen digits are
always enough. -/
def shortest (n : Neighbourhood) : Decimal :=
  let magnitude := n.magnitude
  let grids := (List.range 17).map fun count : Nat => magnitude - (count + 1 : Int)
  (grids.findSome? n.nearestOnGrid?).getD ⟨0, 0⟩

end Neighbourhood

/-- A decimal number in positional notation, with at least one digit after the point. -/
def Decimal.text (decimal : Decimal) : String :=
  let written := Nat.toDigits 10 decimal.digits
  let kept := (written.reverse.dropWhile (· == '0')).reverse
  let exponent := decimal.exponent + (written.length - kept.length : Nat)
  let point : Int := kept.length + exponent
  if kept.isEmpty then "0.0"
  else if exponent ≥ 0 then
    String.ofList (kept ++ List.replicate exponent.toNat '0') ++ ".0"
  else if point > 0 then
    String.ofList (kept.take point.toNat ++ '.' :: kept.drop point.toNat)
  else
    String.ofList ('0' :: '.' :: List.replicate (-point).toNat '0' ++ kept)

/-- The text of a number: the fewest digits that read back, in positional notation. -/
def text : Binary64 → String
  | notANumber => "NaN"
  | infinite negative => (if negative then "-" else "") ++ "inf"
  | finite negative mantissa exponent =>
    let magnitude :=
      if mantissa = 0 then "0.0" else (neighbourhood mantissa exponent).shortest.text
    (if negative then "-" else "") ++ magnitude

end Binary64

end DatagramEcho

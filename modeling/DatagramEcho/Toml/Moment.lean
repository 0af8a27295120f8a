import DatagramEcho.Toml.Mistake

/-!
# Dates and times

A moment is a date, a time of day, or both; with both there may be an offset. Days have to exist in
their month, and leap years are those of the Gregorian calendar. Nothing in a configuration is a
moment, so the readers only decide what is one.
-/

namespace DatagramEcho.Toml

/-- A number of exactly `count` decimal digits between two bounds. -/
def fixedNumber (count low high : Nat) : Reader Nat := fun input =>
  let (values, _) := TextReader.digits 10 (input.take count)
  let value := TextReader.numberOf 10 values
  if values.length < count then .error { place := input }
  else if low ≤ value ∧ value ≤ high then .ok (value, input.drop count)
  else .error { place := input, cause := some .outOfRange }

/-- Whether a year has a leap day. -/
def isLeapYear (year : Nat) : Bool :=
  year % 4 == 0 && (year % 100 != 0 || year % 400 == 0)

/-- Number of days of a month. -/
def daysInMonth (year month : Nat) : Nat :=
  match month with
  | 2 => if isLeapYear year then 29 else 28
  | 4 | 6 | 9 | 11 => 30
  | _ => 31

/-- The day of a month. -/
def dayReader (year month : Nat) : Reader Nat := fun input => do
  let (day, rest) ← fixedNumber 2 1 31 input
  if day ≤ daysInMonth year month then return (day, rest)
  else throw { place := input, cause := some .outOfRange }

/-- A date. Once there is a year and a dash, nothing else is meant. -/
def dateReader : Reader Unit := fun input => do
  let (year, rest) ← fixedNumber 4 0 9999 input
  let (_, rest) ← Reader.exactly ['-'] rest
  let (month, rest) ← Reader.settled (fixedNumber 2 1 12) rest
  let (_, rest) ← Reader.settled (Reader.exactly ['-']) rest
  let (_, rest) ← Reader.settled (dayReader year month) rest
  return ((), rest)

/-- The text after the decimals of a second, if there are any. -/
def skipDecimals : List Char → List Char
  | '.' :: c :: rest => if c.isDigit then rest.dropWhile (·.isDigit) else '.' :: c :: rest
  | rest => rest

/-- A time of day. Once there is an hour and a colon, nothing else is meant. A second may be a leap
second. -/
def timeReader : Reader Unit := fun input => do
  let (_, rest) ← fixedNumber 2 0 23 input
  let (_, rest) ← Reader.exactly [':'] rest
  let (_, rest) ← Reader.settled (fixedNumber 2 0 59) rest
  let (_, rest) ← Reader.settled (Reader.exactly [':']) rest
  let (_, rest) ← Reader.settled (fixedNumber 2 0 60) rest
  return ((), skipDecimals rest)

/-- An offset from universal time. -/
def offsetReader : Reader Unit :=
  Reader.mapMistake (·.about "time offset") fun
    | 'Z' :: rest | 'z' :: rest => .ok ((), rest)
    | '+' :: rest | '-' :: rest => do
      let (_, rest) ← Reader.settled (fixedNumber 2 0 23) rest
      let (_, rest) ← Reader.settled (Reader.exactly [':']) rest
      let (_, rest) ← Reader.settled (fixedNumber 2 0 59) rest
      return ((), rest)
    | input => .error { place := input }

/-- A time of day that belongs to a date. -/
def timeOfDateReader : Reader Unit := fun input => do
  let (_, rest) ← Reader.one (fun c => c == 'T' || c == 't' || c == ' ') input
  let (_, rest) ← timeReader rest
  let (_, rest) ← Reader.attempt offsetReader rest
  return ((), rest)

/-- A moment. -/
def momentReader : Reader Unit :=
  Reader.orElse
    (Reader.mapMistake (·.about "date-time") fun input => do
      let (_, rest) ← dateReader input
      let (_, rest) ← Reader.attempt timeOfDateReader rest
      return ((), rest))
    (timeReader.mapMistake (·.about "time"))

end DatagramEcho.Toml

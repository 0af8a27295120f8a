/-!
# Time spans

A span of time is a whole number of nanoseconds. Its text is a number in the largest of the units
`s`, `ms`, `µs` and `ns` in which it is at least one, with as many decimals as are needed.
-/

namespace DatagramEcho

/-- A span of time. -/
structure TimeSpan where
  /-- Its length in nanoseconds. -/
  nanoseconds : Nat
  deriving Repr, DecidableEq, Ord

namespace TimeSpan

/-- No time at all. -/
def zero : TimeSpan := ⟨0⟩

/-- A whole number of milliseconds. -/
def ofMilliseconds (count : Nat) : TimeSpan := ⟨count * 1000000⟩

/-- A number of seconds and of nanoseconds. -/
def ofSeconds (seconds nanoseconds : Nat) : TimeSpan := ⟨seconds * 1000000000 + nanoseconds⟩

/-- The whole milliseconds in a span. -/
def milliseconds (span : TimeSpan) : Nat := span.nanoseconds / 1000000

@[simp]
theorem milliseconds_ofMilliseconds (count : Nat) :
    (ofMilliseconds count).milliseconds = count := by
  simp [milliseconds, ofMilliseconds]

/-- The decimals of `part / 10 ^ places` after the point, without trailing zeros. -/
def decimals (places part : Nat) : List Char :=
  let digits := Nat.toDigits 10 part
  let padded := List.replicate (places - digits.length) '0' ++ digits
  (padded.reverse.dropWhile (· == '0')).reverse

/-- The text of `whole + part / 10 ^ places` in a unit. -/
def inUnit (whole part places : Nat) (unit : String) : String :=
  let point := if part = 0 then "" else "." ++ String.ofList (decimals places part)
  toString whole ++ point ++ unit

/-- The text of a span, as messages give it. -/
def text (span : TimeSpan) : String :=
  let n := span.nanoseconds
  if n ≥ 1000000000 then inUnit (n / 1000000000) (n % 1000000000) 9 "s"
  else if n ≥ 1000000 then inUnit (n / 1000000) (n % 1000000) 6 "ms"
  else if n ≥ 1000 then inUnit (n / 1000) (n % 1000) 3 "µs"
  else inUnit n 0 0 "ns"

end TimeSpan

end DatagramEcho

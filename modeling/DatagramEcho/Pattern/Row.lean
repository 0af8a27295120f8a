/-!
# Rows of parts

A pattern must not be nested too deeply. A group, a repetition, a set, and a row of at least two
parts or alternatives are one level deeper than what is in them.
-/

namespace DatagramEcho.Pattern

/-- The parts of a row, the last one first. For each it has how deeply the part is nested, or `none`
if the part only switches the mode. -/
abbrev Row := List (Option Nat)

namespace Row

/-- How deeply a row is nested. -/
def depth (row : Row) : Nat :=
  let deepest := row.foldl (fun depth part => max depth (part.getD 0)) 0
  if row.length < 2 then deepest else deepest + 1

/-- The row with its last part repeated, if it can be. -/
def repeatLast? : Row → Option Row
  | some depth :: row => some (some (depth + 1) :: row)
  | _ => none

end Row

/-- A pattern is nested at most this deeply. -/
def maxDepth : Nat := 250

end DatagramEcho.Pattern

import DatagramEcho.Pattern.Escape
import DatagramEcho.Pattern.Row

/-!
# Sets in patterns

Brackets hold a set of characters: single ones, ranges with a dash between their ends, classes, and
further sets between brackets. Two equal signs `&&`, `--` or `~~` combine what stands before and
after them. A caret at the front stands for all characters that are not in the set. Dashes at the
front are members, and so is a closing bracket that would close an empty set.
-/

namespace DatagramEcho.Pattern

/-- The names of the classes of ASCII. -/
def asciiClasses : List String :=
  ["alnum", "alpha", "ascii", "blank", "cntrl", "digit", "graph", "lower", "print", "punct",
    "space", "upper", "word", "xdigit"]

/-- A class of ASCII, after its opening bracket: whether it is negated. -/
def asciiClass : TextReader Bool
  | ':' :: text =>
    let (negated, text) := match text with
      | '^' :: text => (true, text)
      | text => (false, text)
    match text.dropWhile (· ≠ ':') with
    | ':' :: ']' :: rest =>
      if asciiClasses.contains (String.ofList (text.takeWhile (· ≠ ':'))) then some (negated, rest)
      else none
    | _ => none
  | _ => none

/-- A single character of a set, or `none` for a class. -/
def member (mode : Mode) : TextReader (Option Char)
  | [] => none
  | '\\' :: text => do
    let (escape, text) ← Escape.reader mode text
    match escape with
    | .literal c | .code c => if mode.takesMember c then some (some c, text) else none
    | .letterClass _ => if escape.fits mode then some (none, text) else none
    | .textEnd | .wordBoundary => none
  | c :: text => if mode.takesMember c then some (some c, text) else none

/-- The sign that decides whether a dash before `text` belongs to a range. It is not looked for
behind a comment, but in it. -/
def signAfterDash (mode : Mode) (text : List Char) : Option Char :=
  let sign? :=
    if mode.spaced then
      match text.dropWhile Text.isBlank with
      | '#' :: comment => (comment.dropWhile Text.isBlank).head?
      | text => text.head?
    else none
  sign?.or text.head?

/-- A single character, a class or a range. A dash does not belong to a range if another dash or a
closing bracket follows it. -/
def members (mode : Mode) : TextReader Unit := fun text => do
  let (first?, text) ← member mode text
  match mode.skip text with
  | '-' :: rest =>
    if [some '-', some ']'].contains (signAfterDash mode rest) then some ((), '-' :: rest)
    else
      let first ← first?
      let (last?, rest) ← member mode (mode.skip rest)
      let last ← last?
      if first ≤ last then some ((), rest) else none
  | rest => some ((), rest)

/-- A set whose closing bracket has not been read. -/
structure OpenSet where
  /-- How deeply what stands before the last operator is nested. -/
  left : Option Nat := none
  /-- The members after it. -/
  row : Row := []
  /-- Whether it has only dashes so far. -/
  leading : Bool := true
  deriving Repr

namespace OpenSet

/-- How deeply what is in the set is nested. -/
def depth (set : OpenSet) : Nat :=
  match set.left with
  | none => set.row.depth
  | some left => max left set.row.depth + 1

/-- The set with one more member. -/
def add (set : OpenSet) (depth : Nat) : OpenSet :=
  { set with row := some depth :: set.row, leading := false }

/-- The set after an operator. -/
def combine (set : OpenSet) : OpenSet :=
  { left := some set.depth, leading := false }

end OpenSet

/-- The text after an opening bracket and a caret behind it, if a set can start so. -/
def openSet? (mode : Mode) (text : List Char) : Option (List Char) :=
  match mode.skip text with
  | '^' :: text => if mode.takesComplements then some text else none
  | text => some text

/-- The rest of an open set in other open ones, from the innermost on: how deeply the outermost one
is nested. The length of `fuel` bounds the number of members and brackets. -/
def restOfSet (mode : Mode) (fuel : List Char) (set : OpenSet) (outer : List OpenSet)
    (text : List Char) : Option (Nat × List Char) :=
  match fuel, mode.skip text with
  | [], _ | _, [] => none
  | _ :: fuel, c :: text =>
    if set.leading ∧ (c = '-' ∨ c = ']' ∧ set.row.isEmpty) then
      if mode.takesMember c then
        restOfSet mode fuel { set.add 0 with leading := c = '-' } outer text
      else none
    else if c = ']' then
      match outer with
      | [] => some (set.depth + 1, text)
      | next :: outer => restOfSet mode fuel (next.add (set.depth + 1)) outer text
    else if c = '[' then
      match asciiClass text with
      | some (negated, text) =>
        if mode.takesLiterals ∧ (mode.takesComplements ∨ ¬ negated) then
          restOfSet mode fuel (set.add 0) outer text
        else none
      | none => do restOfSet mode fuel {} (set :: outer) (← openSet? mode text)
    else if ['&', '-', '~'].contains c ∧ text.head? = some c then
      restOfSet mode fuel set.combine outer (text.drop 1)
    else do
      let ((), text) ← members mode (c :: text)
      restOfSet mode fuel (set.add 0) outer text

/-- A set, after its opening bracket: how deeply it is nested. -/
def setReader (mode : Mode) : TextReader Nat := fun text => do
  restOfSet mode text {} [] (← openSet? mode text)

end DatagramEcho.Pattern

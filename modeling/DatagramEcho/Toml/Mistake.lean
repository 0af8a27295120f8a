import DatagramEcho.Text.Offset
import DatagramEcho.Text.Reader

/-!
# Places and mistakes

A place in a text is given by what follows it, and a span by its two ends; its offsets in bytes are
computed when someone asks for them. A `Mistake` says where a text could not be read, what was being
read there and what could have stood there instead. The readers of this format either give a value
and the text after it, or a mistake.

A mistake is settled when the text in front of it has fixed what has to follow, so that no other
reading is tried. `orElse` and `attempt` try another reading after any other mistake.
-/

namespace DatagramEcho.Toml

/-- A stretch of a text. -/
structure Span where
  /-- The text from the beginning of the span on. -/
  start : List Char
  /-- The text after the span. -/
  stop : List Char
  deriving Repr

/-- A value with the stretch of text that spells it, where there is one. -/
structure Located (α : Type) where
  /-- The value. -/
  value : α
  /-- Where it is written. -/
  span : Option Span := none
  deriving Repr

namespace Span

/-- The offsets in bytes of the beginning and of the end of a span of `text`. -/
def offsets (text : List Char) (span : Span) : Nat × Nat :=
  (Text.size text - Text.size span.start, Text.size text - Text.size span.stop)

/-- The first character of a text, or its end. -/
def first (place : List Char) : Span :=
  ⟨place, place.drop 1⟩

/-- From the beginning of one span to the end of another. -/
def join (first last : Span) : Span :=
  ⟨first.start, last.stop⟩

end Span

/-- What is wrong with a text that has the right form. -/
inductive Cause where
  /-- A key is defined twice, in the table of a path where that is known. -/
  | duplicateKey (key : String) (table : Option (List String))
  /-- A path leads through something that is no table. -/
  | extendsValue (path : List String) (type : String)
  /-- A number is out of the range of its place. -/
  | outOfRange
  /-- Values are nested too deeply, or a key has too many parts. -/
  | tooDeep
  /-- A whole number is too large. -/
  | tooLarge
  /-- A whole number is too small. -/
  | tooSmall
  deriving Repr, DecidableEq

/-- The text of a cause for readers. -/
def Cause.message : Cause → String
  | duplicateKey key none => s!"duplicate key `{key}`"
  | duplicateKey key (some []) => s!"duplicate key `{key}` in document root"
  | duplicateKey key (some table) =>
    s!"duplicate key `{key}` in table `" ++ ".".intercalate table ++ "`"
  | extendsValue path type =>
    "dotted key `" ++ ".".intercalate path ++ s!"` attempted to extend non-table type ({type})"
  | outOfRange => "value is out of range"
  | tooDeep => "recursion limit exceeded"
  | tooLarge => "number too large to fit in target type"
  | tooSmall => "number too small to fit in target type"

/-- Why a text could not be read. -/
structure Mistake where
  /-- The text from the place on where the reading stopped. -/
  place : List Char
  /-- What was being read. -/
  subject : Option String := none
  /-- What could have stood there. -/
  expected : List String := []
  /-- What is wrong, if the form is right. -/
  cause : Option Cause := none
  /-- Whether no other reading is tried. -/
  settled : Bool := false
  deriving Repr

namespace Mistake

/-- No other reading is to be tried. -/
def settle (mistake : Mistake) : Mistake :=
  { mistake with settled := true }

/-- The mistake came up while reading `subject`. A narrower subject stays. -/
def about (subject : String) (mistake : Mistake) : Mistake :=
  { mistake with subject := mistake.subject.or (some subject) }

/-- More that could have stood at the place. -/
def expecting (expected : List String) (mistake : Mistake) : Mistake :=
  { mistake with expected := mistake.expected ++ expected }

/-- The text of a mistake for readers. -/
def message (mistake : Mistake) : String :=
  let subject := mistake.subject.map fun subject => "invalid " ++ subject
  let expected :=
    if mistake.expected.isEmpty then none
    else some ("expected " ++ ", ".intercalate mistake.expected)
  "\n".intercalate ([subject, expected, mistake.cause.map Cause.message].filterMap id)

end Mistake

/-- Takes a value from the front of a text and returns it with what is left, or says why there is
none. -/
abbrev Reader (α : Type) := List Char → Except Mistake (α × List Char)

namespace Reader

/-- Another reading, unless the first one succeeds or is settled. -/
def orElse {α : Type} (first second : Reader α) : Reader α := fun input =>
  match first input with
  | .ok result => .ok result
  | .error mistake => if mistake.settled then .error mistake else second input

/-- A reading that may be left out. -/
def attempt {α : Type} (reader : Reader α) : Reader (Option α) := fun input =>
  match reader input with
  | .ok (value, rest) => .ok (some value, rest)
  | .error mistake => if mistake.settled then .error mistake else .ok (none, input)

/-- A reading with other mistakes. -/
def mapMistake {α : Type} (f : Mistake → Mistake) (reader : Reader α) : Reader α := fun input =>
  (reader input).mapError f

/-- A reading that has to succeed. -/
def settled {α : Type} (reader : Reader α) : Reader α :=
  reader.mapMistake Mistake.settle

/-- A value with its span. -/
def located {α : Type} (reader : Reader α) : Reader (Located α) := fun input =>
  (reader input).map fun (value, rest) => (⟨value, some ⟨input, rest⟩⟩, rest)

/-- A given text. -/
def exactly (expected : List Char) : Reader Unit := fun input =>
  if expected.isPrefixOf input then .ok ((), input.drop expected.length)
  else .error { place := input }

/-- One character of a class. -/
def one (isMember : Char → Bool) : Reader Char
  | c :: rest => if isMember c then .ok (c, rest) else .error { place := c :: rest }
  | [] => .error { place := [] }

end Reader

end DatagramEcho.Toml

import DatagramEcho.Text.Quoted
import DatagramEcho.Toml.Str

/-!
# TOML keys

A key is a sequence of names with dots between them. A name is written bare, with letters, digits,
dashes and underscores of ASCII, or as a string of one line.
-/

namespace DatagramEcho.Toml

/-- A name of a key, with its place. -/
abbrev Name := Located String

/-- A key: the path that leads to it, and its last name. -/
structure Key where
  /-- The names before the last one. -/
  path : List Name
  /-- The last name. -/
  last : Name
  deriving Repr

/-- The texts of some names. -/
def texts (names : List Name) : List String :=
  names.map Located.value

/-- How deep values may be nested, and how many names a key may have. -/
def nestingLimit : Nat := 79

/-- A character of a bare name. -/
def isBare (c : Char) : Bool :=
  c.isAlphanum || c == '-' || c == '_'

/-- A name as messages give it, with quotation marks where it could not be written bare. -/
def nameText (name : String) : String :=
  if !name.isEmpty && name.toList.all isBare then name else Text.quoted name

/-- One name of a key. -/
def nameReader : Reader String := fun input =>
  match input with
  | '"' :: _ | '\x27' :: _ => singleLineString input
  | _ =>
    let name := input.takeWhile isBare
    if name.isEmpty then .error { place := input }
    else .ok (String.ofList name, input.dropWhile isBare)

/-- One name of a key, with blanks around it. -/
def paddedNameReader : Reader Name := fun input => do
  let (name, rest) ← nameReader.located (skipBlanks input)
  return (name, skipBlanks rest)

/-- Further names after dots. A dot with no name after it is left. The length of `fuel` bounds their
number, and `names` are the names before them, the last one first. -/
def moreNames (fuel : List Char) (names : List Name) (input : List Char) :
    Except Mistake (List Name × List Char) :=
  match fuel, input with
  | _ :: fuel, '.' :: rest =>
    match paddedNameReader rest with
    | .ok (name, rest) => moreNames fuel (name :: names) rest
    | .error mistake => if mistake.settled then .error mistake else .ok (names, input)
  | _, _ => .ok (names, input)

/-- A key. -/
def keyReader : Reader Key := fun input => do
  let (first, rest) ← (paddedNameReader input).mapError (·.about "key")
  let (others, rest) ← (moreNames rest [] rest).mapError (·.about "key")
  if others.length + 1 > nestingLimit then throw { place := input, cause := some .tooDeep }
  match others with
  | last :: others => return (⟨first :: others.reverse, last⟩, rest)
  | [] => return (⟨[], first⟩, rest)

end DatagramEcho.Toml

import DatagramEcho.Pattern.Brackets

/-!
# Reading patterns

A pattern is a row of alternatives, each of which is a row of parts: characters, escapes, sets and
groups, each of them perhaps repeated. A group between round brackets may have a name of its own or
options. Options hold to the end of the group in which they stand.

A pattern is always followed by a closing brace. So an opening brace never starts a valid part.

* `Reading.next?` reads one sign, escape or set.
* `Reading.rest?` reads a whole pattern.
-/

namespace DatagramEcho.Pattern

/-- The alternatives of a group that have been read. -/
structure Level where
  /-- The complete ones. -/
  earlier : Row := []
  /-- The parts of the last one. -/
  parts : Row := []
  deriving Repr

namespace Level

/-- How deeply the alternatives are nested. -/
def depth (level : Level) : Nat :=
  Row.depth (some level.parts.depth :: level.earlier)

/-- One more part of the last alternative. -/
def add (level : Level) (part : Option Nat) : Level :=
  { level with parts := part :: level.parts }

/-- One more alternative. -/
def branch (level : Level) : Level :=
  { earlier := some level.parts.depth :: level.earlier }

end Level

/-- What is known of a pattern of which some parts have been read. -/
structure Reading where
  /-- The mode of the next part. -/
  mode : Mode := {}
  /-- The innermost open group. -/
  level : Level := {}
  /-- The groups around it, with the modes to which their parts return. -/
  outer : List (Mode × Level) := []
  /-- The names of groups. -/
  names : List (List Char) := []
  /-- Whether an end of a word is asked for among characters. -/
  wordBoundary : Bool := false
  deriving Repr

/-- Whether a text is a name of a group. -/
def isGroupName : List Char → Bool
  | [] => false
  | c :: text =>
    (c == '_' || Text.isAlphabetic c) &&
      text.all fun c => ['_', '.', '[', ']'].contains c || Text.isAlphanumeric c

namespace Reading

/-- One more part. -/
def add (reading : Reading) (depth : Nat) : Reading :=
  { reading with level := reading.level.add (some depth) }

/-- One more part that has to be allowed. -/
def addIf (reading : Reading) (allowed : Bool) : Option Reading :=
  if allowed then some (reading.add 0) else none

/-- Enter a group whose parts are read in a mode. -/
def enter (reading : Reading) (mode : Mode) : Reading :=
  { reading with mode, level := {}, outer := (reading.mode, reading.level) :: reading.outer }

/-- Leave a group. -/
def leave? (reading : Reading) : Option Reading :=
  match reading.outer with
  | [] => none
  | (mode, level) :: outer =>
    some { reading with mode, level := level.add (some (reading.level.depth + 1)), outer }

/-- Repeat the last part. -/
def repeatLast? (reading : Reading) : Option Reading := do
  let parts ← reading.level.parts.repeatLast?
  return { reading with level := { reading.level with parts } }

/-- An escape as a part. -/
def escape? (reading : Reading) (escape : Escape) : Option Reading :=
  let boundary := escape = .wordBoundary ∧ reading.mode.unicode
  { reading with wordBoundary := reading.wordBoundary || boundary }.addIf
    (escape.fits reading.mode)

/-- A name of a group with the sign after it. -/
def nameReader (reading : Reading) : TextReader Reading := fun text =>
  let name := text.takeWhile (· ≠ '>')
  match text.dropWhile (· ≠ '>') with
  | [] => none
  | _ :: rest =>
    if isGroupName name ∧ ¬ reading.names.contains name then
      some ({ reading with names := name :: reading.names }.enter reading.mode, rest)
    else none

/-- Options, for what follows or for a group that follows. -/
def optionsReader (reading : Reading) : TextReader Reading := fun text =>
  let options := text.takeWhile fun c => c ≠ ':' ∧ c ≠ ')'
  let mode := reading.mode.switch options
  if !areOptions options then none
  else
    match text.drop options.length with
    | ':' :: rest => some (reading.enter mode, rest)
    | ')' :: rest =>
      if options.isEmpty then none
      else some ({ reading with mode, level := reading.level.add none }, rest)
    | _ => none

/-- The beginning of a group, after its bracket. -/
def groupReader (reading : Reading) : TextReader Reading := fun text =>
  match reading.mode.skip text with
  | '?' :: 'P' :: '<' :: rest | '?' :: '<' :: rest => reading.nameReader rest
  | '?' :: rest => reading.optionsReader rest
  | rest => some (reading.enter reading.mode, rest)

/-- The reading after one more sign, escape or set. A question mark after the sign of a repetition
belongs to it. -/
def next? (reading : Reading) : TextReader Reading
  | [] => none
  | '(' :: text => reading.groupReader text
  | ')' :: text => reading.leave?.map (·, text)
  | '|' :: text => some ({ reading with level := reading.level.branch }, text)
  | '[' :: text => (setReader reading.mode text).map fun (depth, text) => (reading.add depth, text)
  | '\\' :: text => do
    let (escape, text) ← Escape.reader reading.mode text
    return (← reading.escape? escape, text)
  | '\x7b' :: _ => none
  | '.' :: text => (reading.addIf reading.mode.unicode).map (·, text)
  | c :: text =>
    if ['?', '*', '+'].contains c then
      reading.repeatLast?.map (·, if text.head? = some '?' then text.drop 1 else text)
    else
      (reading.addIf (['^', '$'].contains c || reading.mode.takesLiterals)).map (·, text)

/-- The reading of the rest of a pattern. The length of `fuel` bounds the number of its parts. -/
def rest? (reading : Reading) (fuel text : List Char) : Option Reading :=
  match fuel, reading.mode.skip text with
  | _, [] => some reading
  | [], _ => none
  | _ :: fuel, text => do
    let (reading, text) ← reading.next? text
    reading.rest? fuel text

end Reading

end DatagramEcho.Pattern

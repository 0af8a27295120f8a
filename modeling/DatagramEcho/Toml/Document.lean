import DatagramEcho.Toml.Literal

/-!
# TOML documents

A document is a sequence of lines. A line is empty, holds a comment, gives a key a value, or is a
header that opens a table. A byte order mark may stand at the very beginning.
-/

namespace DatagramEcho.Toml

/-- A mistake for a cause that was found after the text from `place` on was read. -/
def mistakeAt {α : Type} (place : List Char) (outcome : Except Cause α) : Except Mistake α :=
  outcome.mapError fun cause => { place, cause := some cause, settled := true }

/-- A key between brackets, and the rest of its line. -/
def bracketsReader (opening closing : List Char) : Reader (Located Key) := fun input => do
  let (key, rest) ← Reader.located (fun input => do
    let (_, rest) ← Reader.exactly opening input
    let (key, rest) ← keyReader rest
    let (_, rest) ← (Reader.exactly closing rest).mapError
      (·.expecting ["`.`", "`" ++ String.ofList closing ++ "`"])
    return (key, rest)) input
  let (_, rest) ← lineRest rest
  return (key, rest)

/-- A line with a header, which `start` opens. -/
def headerReader (start : Key → Span → Except Cause Draft) (opening closing : List Char) :
    Reader Draft := fun input => do
  let (header, rest) ← bracketsReader opening closing input
  let draft ← mistakeAt input (start header.value (header.span.getD ⟨input, rest⟩))
  return (draft, rest)

/-- A line with a header of a table or of an element of an array of tables. -/
def anyHeaderReader (draft : Draft) : Reader Draft :=
  Reader.mapMistake (·.about "table header") fun input =>
    match input with
    | '[' :: '[' :: _ => headerReader draft.openElement ['[', '['] [']', ']'] input
    | ['['] => .error { place := input }
    | _ => headerReader draft.openTable ['['] [']'] input

/-- A line that gives a key a value. -/
def definitionReader (draft : Draft) : Reader Draft := fun input => do
  let ((key, value), rest) ← pairReader (valueReader nestingLimit) input
  let (_, rest) ← lineRest rest
  let draft ← mistakeAt input (draft.define key value)
  return (draft, rest)

/-- A line that holds a comment. -/
def commentReader : Reader Unit := fun input =>
  lineEnd (skipComment input)

/-- The lines of a document. The length of `fuel` bounds their number. -/
def readLines (draft : Draft) (fuel input : List Char) : Except Mistake Draft :=
  match fuel, skipBlanks input with
  | _, [] => .ok draft
  | [], place => .error { place }
  | _ :: fuel, c :: rest =>
    if c = '[' then do
      let (draft, rest) ← anyHeaderReader draft (c :: rest)
      readLines draft fuel rest
    else if c = '#' then do
      let (_, rest) ← commentReader (c :: rest)
      readLines draft fuel rest
    else if c = '\n' ∨ c = '\r' then do
      let (_, rest) ← lineEnd (c :: rest)
      readLines draft fuel rest
    else do
      let (draft, rest) ← definitionReader draft (c :: rest)
      readLines draft fuel rest

/-- The text without a byte order mark at its beginning. -/
def skipMark : List Char → List Char
  | '\ufeff' :: rest => rest
  | input => input

/-- The entries of the document that a text spells, or why it is not valid. -/
def document (text : String) : Except Mistake Entries := do
  let input := skipMark text.toList
  let draft ← readLines {} input input
  mistakeAt input draft.close

end DatagramEcho.Toml

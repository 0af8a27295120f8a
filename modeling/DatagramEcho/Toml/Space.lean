import DatagramEcho.Toml.Mistake

/-!
# Space and comments

Between the parts of a TOML line there may be spaces and tabs. A line ends in a line feed, with or
without a carriage return before it, and may have a comment in front of that. Inside an array lines
may break anywhere.
-/

namespace DatagramEcho.Toml

/-- A space or a tab. -/
def isBlank (c : Char) : Bool :=
  c == ' ' || c == '\t'

/-- A character that a comment or a string may hold as it is: a tab, or anything but the control
characters of ASCII. -/
def isPlain (c : Char) : Bool :=
  c == '\t' || (' ' ≤ c && c != '\x7f')

/-- The text after the blanks at its front. -/
def skipBlanks (input : List Char) : List Char :=
  input.dropWhile isBlank

/-- A line break. -/
def newline : Reader Unit
  | '\n' :: rest => .ok ((), rest)
  | '\r' :: '\n' :: rest => .ok ((), rest)
  | '\r' :: rest => .error { place := rest }
  | input => .error { place := input }

/-- The text after a comment at its front. -/
def skipComment : List Char → List Char
  | '#' :: comment => comment.dropWhile isPlain
  | input => input

/-- A line break or the end of the document. -/
def lineEnd : Reader Unit
  | [] => .ok ((), [])
  | input => (newline input).mapError fun mistake => { mistake with place := input }

/-- The rest of a line: blanks, perhaps a comment, and its end. -/
def lineRest : Reader Unit := fun input =>
  (lineEnd (skipComment (skipBlanks input))).mapError (·.expecting ["newline", "`#`"])

/-- Blanks, line breaks and comments. A comment has to end in a line break. `comment` says that the
text starts inside one. -/
def gap (comment : Bool) : List Char → Except Mistake (List Char)
  | [] => if comment then .error { place := [] } else .ok []
  | '\n' :: rest => gap false rest
  | '\r' :: '\n' :: rest => gap false rest
  | c :: rest =>
    if comment then
      if isPlain c then gap true rest
      else .error { place := if c = '\r' then rest else c :: rest }
    else if c = '#' then gap true rest
    else if isBlank c then gap false rest
    else if c = '\r' then .error { place := rest }
    else .ok (c :: rest)

end DatagramEcho.Toml

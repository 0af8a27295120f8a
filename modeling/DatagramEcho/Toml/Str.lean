import DatagramEcho.Toml.Space

/-!
# TOML strings

There are four kinds of strings. Those between double quotation marks have escapes, those between
single ones have none, and each kind may be written between triple marks, where it may span lines. A
line break in a string is a line feed, however it is written.

The readers `basicBody` and its like start after the opening marks and collect the characters of the
string in reverse.
-/

namespace DatagramEcho.Toml

/-- The character that a one-letter escape stands for. -/
def escape? : Char → Option Char
  | 'b' => some '\x08'
  | 't' => some '\t'
  | 'n' => some '\n'
  | 'f' => some '\x0c'
  | 'r' => some '\r'
  | '"' => some '"'
  | '\\' => some '\\'
  | _ => none

/-- The characters that may follow a backslash, as messages give them. -/
def escapes : List String :=
  ["`b`", "`f`", "`n`", "`r`", "`t`", "`u`", "`U`", "`\\`", "`\"`"]

/-- What a message calls the digits of an escape. -/
def hexSubject (long : Bool) : String :=
  if long then "unicode 8-digit hex code" else "unicode 4-digit hex code"

/-- The character whose code point the digits spell in hexadecimal. `rest` follows them. -/
def codePoint (long : Bool) (digits rest : List Char) : Except Mistake Char :=
  let mistake : Mistake :=
    { place := digits ++ rest, subject := some (hexSubject long), settled := true }
  match digits.mapM (TextReader.digitValue? 16) with
  | none => .error mistake
  | some values =>
    let code := TextReader.numberOf 16 values
    if code.isValidChar then .ok (Char.ofNat code)
    else .error { mistake with cause := some .outOfRange }

/-- The mistake of a backslash before `c` that is no escape. -/
def badEscape (c : Char) (rest : List Char) : Mistake :=
  if c = 'u' ∨ c = 'U' then
    { place := rest, subject := some (hexSubject (c = 'U')), settled := true }
  else
    { place := if c ≤ '\x7f' then rest else c :: rest
      subject := some "escape sequence"
      expected := escapes
      settled := true }

/-- The mistake of a string that does not end. -/
def unclosed (subject : String) (place : List Char) : Mistake :=
  { place, subject := some subject, settled := true }

/-- The text whose characters, in reverse, are `text`. -/
def ofReversed (text : List Char) : String :=
  String.ofList text.reverse

/-- The rest of a string between double quotation marks. -/
def basicBody (text : List Char) : Reader String
  | '"' :: rest => .ok (ofReversed text, rest)
  | ['\\'] => .error (unclosed "basic string" ['\\'])
  | '\\' :: 'u' :: a :: b :: c :: d :: rest => do
    let x ← codePoint false [a, b, c, d] rest
    basicBody (x :: text) rest
  | '\\' :: 'U' :: a :: b :: c :: d :: e :: f :: g :: h :: rest => do
    let x ← codePoint true [a, b, c, d, e, f, g, h] rest
    basicBody (x :: text) rest
  | '\\' :: c :: rest =>
    match escape? c with
    | some x => basicBody (x :: text) rest
    | none => .error (badEscape c rest)
  | c :: rest =>
    if isPlain c then basicBody (c :: text) rest
    else .error (unclosed "basic string" (c :: rest))
  | [] => .error (unclosed "basic string" [])

/-- The rest of a string between single quotation marks. -/
def literalBody (text : List Char) : Reader String
  | '\x27' :: rest => .ok (ofReversed text, rest)
  | c :: rest =>
    if isPlain c then literalBody (c :: text) rest
    else .error (unclosed "literal string" (c :: rest))
  | [] => .error (unclosed "literal string" [])

/-- Whether a backslash before `rest` ends its line. -/
def endsLine (rest : List Char) : Bool :=
  (newline (skipBlanks rest)).isOk

/-- Whether the text goes on with something other than a quotation mark that a string over several
lines may hold. -/
def holdsMore (quote : Char) : List Char → Bool
  | '\n' :: _ | '\r' :: '\n' :: _ => true
  | ['\\'] => quote != '"'
  | c :: _ => isPlain c && c != quote
  | [] => false

/-- The rest of a string between triple double quotation marks. One or two marks belong to the
string, also directly before the closing ones. `skipping` says that a backslash has ended a line,
and that blanks and line breaks do not count until something else comes. -/
def multilineBasicBody (skipping : Bool) (text : List Char) : Reader String
  | '"' :: '"' :: '"' :: '"' :: '"' :: rest => .ok (ofReversed ('"' :: '"' :: text), rest)
  | '"' :: '"' :: '"' :: '"' :: rest => .ok (ofReversed ('"' :: text), rest)
  | '"' :: '"' :: '"' :: rest => .ok (ofReversed text, rest)
  | '"' :: '"' :: rest =>
    if holdsMore '"' rest then multilineBasicBody false ('"' :: '"' :: text) rest
    else .error (unclosed "multiline basic string" ('"' :: '"' :: rest))
  | '"' :: rest =>
    if holdsMore '"' rest then multilineBasicBody false ('"' :: text) rest
    else .error (unclosed "multiline basic string" ('"' :: rest))
  | '\n' :: rest => multilineBasicBody skipping (if skipping then text else '\n' :: text) rest
  | '\r' :: '\n' :: rest =>
    multilineBasicBody skipping (if skipping then text else '\n' :: text) rest
  | ['\\'] => .error (unclosed "multiline basic string" ['\\'])
  | '\\' :: 'u' :: a :: b :: c :: d :: rest => do
    let x ← codePoint false [a, b, c, d] rest
    multilineBasicBody false (x :: text) rest
  | '\\' :: 'U' :: a :: b :: c :: d :: e :: f :: g :: h :: rest => do
    let x ← codePoint true [a, b, c, d, e, f, g, h] rest
    multilineBasicBody false (x :: text) rest
  | '\\' :: c :: rest =>
    if endsLine (c :: rest) then multilineBasicBody true text (c :: rest)
    else
      match escape? c with
      | some x => multilineBasicBody false (x :: text) rest
      | none => .error (badEscape c rest)
  | c :: rest =>
    if !isPlain c then .error (unclosed "multiline basic string" (c :: rest))
    else if skipping && isBlank c then multilineBasicBody true text rest
    else multilineBasicBody false (c :: text) rest
  | [] => .error (unclosed "multiline basic string" [])

/-- The rest of a string between triple single quotation marks. -/
def multilineLiteralBody (text : List Char) : Reader String
  | '\x27' :: '\x27' :: '\x27' :: '\x27' :: '\x27' :: rest =>
    .ok (ofReversed ('\x27' :: '\x27' :: text), rest)
  | '\x27' :: '\x27' :: '\x27' :: '\x27' :: rest => .ok (ofReversed ('\x27' :: text), rest)
  | '\x27' :: '\x27' :: '\x27' :: rest => .ok (ofReversed text, rest)
  | '\x27' :: '\x27' :: rest =>
    if holdsMore '\x27' rest then multilineLiteralBody ('\x27' :: '\x27' :: text) rest
    else .error (unclosed "multiline literal string" ('\x27' :: '\x27' :: rest))
  | '\x27' :: rest =>
    if holdsMore '\x27' rest then multilineLiteralBody ('\x27' :: text) rest
    else .error (unclosed "multiline literal string" ('\x27' :: rest))
  | '\n' :: rest => multilineLiteralBody ('\n' :: text) rest
  | '\r' :: '\n' :: rest => multilineLiteralBody ('\n' :: text) rest
  | c :: rest =>
    if isPlain c then multilineLiteralBody (c :: text) rest
    else .error (unclosed "multiline literal string" (c :: rest))
  | [] => .error (unclosed "multiline literal string" [])

/-- The text after a line break directly behind the opening marks, which does not count. -/
def skipFirstNewline (input : List Char) : List Char :=
  match newline input with
  | .ok (_, rest) => rest
  | .error _ => input

/-- A string of one line. Keys are written so too. -/
def singleLineString : Reader String
  | '"' :: rest => basicBody [] rest
  | '\x27' :: rest => literalBody [] rest
  | input => .error { place := input }

/-- A string of any kind. -/
def stringReader : Reader String
  | '"' :: '"' :: '"' :: rest => multilineBasicBody false [] (skipFirstNewline rest)
  | '\x27' :: '\x27' :: '\x27' :: rest => multilineLiteralBody [] (skipFirstNewline rest)
  | input => singleLineString input

end DatagramEcho.Toml

/-!
# Plain text

A text that came from outside may hold control sequences for a terminal. Messages show such a text
without them: characters that are no control characters are kept, and so are blanks and line
breaks.

A control sequence starts with the escape character. What follows decides how long it is:

* `[` opens a sequence with parameters, which a letter or similar sign ends;
* `]` opens a title, which a bell ends;
* `P` opens a device control string, which has parameters and marks in front, and `X`, `^` and `_`
  open a string; both last until a character whose last byte is the terminator;
* signs from the blank to `/` announce one more sign, and any other sign ends the sequence.

A new escape starts over in every state, and the two cancel characters end every sequence. A line
break in a sequence of the first or last kind is kept. There are two ways to go on after it:

* `plain` takes a text as a whole, and the sequence has ended.
* `plainStream` is for a text that is written to a stream. What follows is kept as well, and the
  sequence goes on at the first character that is not kept.
-/

namespace DatagramEcho.Text

/-- Where in a control sequence a text is. -/
inductive ControlState where
  /-- Outside any sequence. -/
  | ground
  /-- After the escape character. -/
  | escape
  /-- After a sign that announces one more sign. -/
  | announced
  /-- In a sequence with parameters. -/
  | parameters
  /-- At the head of a device control string. -/
  | device
  /-- In the parameters of a device control string. -/
  | deviceParameters
  /-- In the marks after the parameters of a device control string. -/
  | deviceMarks
  /-- In a string. -/
  | string
  /-- In a title. -/
  | title
  deriving Repr, DecidableEq

namespace ControlState

/-- A blank or line break of ASCII. -/
def isSpace (c : Char) : Bool :=
  c == ' ' || c == '\t' || c == '\n' || c == '\r' || c == '\x0c'

/-- Whether the last byte of the one-byte form of a string terminator is among the bytes of `c`
after its first. -/
def endsString (c : Char) : Bool :=
  (c.toString.toUTF8.toList.drop 1).contains 0x9c

/-- Whether a character is kept in a state. A space between the parts of a sequence is kept only if
it is a control character. -/
def keeps (state : ControlState) (c : Char) : Bool :=
  match state with
  | ground => if c < ' ' then isSpace c else c != '\x7f'
  | escape | announced | parameters => c < ' ' && isSpace c
  | device | deviceParameters | deviceMarks | string | title => false

/-- The state after a sign that follows the escape character. -/
def afterEscape (c : Char) : ControlState :=
  if c = '[' then parameters
  else if c = ']' then title
  else if c = 'P' then device
  else if c = 'X' ∨ c = '^' ∨ c = '_' then string
  else if c < '0' then announced
  else ground

/-- The state after a sign in the front part of a device control string. -/
def afterDevice (isParameter : Char → Bool) (c : Char) : ControlState :=
  if c < '0' then deviceMarks
  else if isParameter c then deviceParameters
  else string

/-- The state after a character that is not kept. Characters outside of ASCII and control characters
have no part in a sequence, except that they may end a string. -/
def next (state : ControlState) (c : Char) : ControlState :=
  if c = '\x1b' then escape
  else if c = '\x18' ∨ c = '\x1a' then ground
  else if c < ' ' ∨ c = '\x7f' then if state = title ∧ c = '\x07' then ground else state
  else if c > '\x7f' then if state = string ∧ endsString c then ground else state
  else
    match state with
    | ground => ground
    | escape => afterEscape c
    | announced => if c < '0' then announced else ground
    | parameters => if c < '@' then parameters else ground
    | device => afterDevice (· < '@') c
    | deviceParameters => afterDevice (· < '<') c
    | deviceMarks => afterDevice (fun _ => false) c
    | string => string
    | title => title

end ControlState

/-- What has been kept of a text, and how its rest is looked at. -/
structure Stripping where
  /-- The state after the text. -/
  state : ControlState := .ground
  /-- Whether the last character was kept. -/
  running : Bool := false
  /-- The characters that have been kept, in reverse. -/
  kept : List Char := []
  deriving Repr

namespace Stripping

/-- Look at one more character. If `resumes`, a sequence goes on after kept characters of ASCII. -/
def step (resumes : Bool) (stripping : Stripping) (c : Char) : Stripping :=
  if stripping.state.keeps c || (stripping.running && ControlState.ground.keeps c) then
    { state := if resumes && c ≤ '\x7f' then stripping.state else .ground
      running := true
      kept := c :: stripping.kept }
  else { stripping with state := stripping.state.next c, running := false }

/-- The text that was kept. -/
def text (stripping : Stripping) : String :=
  String.ofList stripping.kept.reverse

end Stripping

/-- A text without control sequences and control characters. -/
def plain (text : String) : String :=
  (text.toList.foldl (Stripping.step false) {}).text

/-- A text as a stream shows it that leaves out control sequences and control characters. -/
def plainStream (text : String) : String :=
  (text.toList.foldl (Stripping.step true) {}).text

end DatagramEcho.Text

import DatagramEcho.Pattern.Mode
import DatagramEcho.Text.Reader

/-!
# Escapes in patterns

A backslash gives the sign after it another meaning. Signs of ASCII that are neither letters nor
digits stand for themselves; letters stand for control characters, for classes of characters, or for
places in a text; and a character can be written by its code point in hexadecimal.
-/

namespace DatagramEcho.Pattern

/-- What an escape stands for. -/
inductive Escape where
  /-- A character. -/
  | literal (c : Char)
  /-- The character or the byte of a code with two digits. -/
  | code (c : Char)
  /-- A class of characters, or all others. -/
  | letterClass (negated : Bool)
  /-- An end of the text. -/
  | textEnd
  /-- An end of a word, or a place that is none. -/
  | wordBoundary
  deriving Repr, DecidableEq

namespace Escape

/-- Whether an escape can be used. -/
def fits (mode : Mode) : Escape → Bool
  | literal _ => mode.takesLiterals
  | code c => mode.takesMember c
  | letterClass negated => !mode.unicode && !negated
  | textEnd | wordBoundary => true

/-- The control character of a letter. -/
def control? : Char → Option Char
  | 'a' => some '\x07'
  | 'f' => some '\x0c'
  | 't' => some '\t'
  | 'n' => some '\n'
  | 'r' => some '\r'
  | 'v' => some '\x0b'
  | _ => none

/-- The meaning of a sign that stands alone behind a backslash. -/
def ofSign? (c : Char) : Option Escape :=
  if ['d', 's', 'w'].contains c then some (letterClass false)
  else if ['D', 'S', 'W'].contains c then some (letterClass true)
  else if ['A', 'z'].contains c then some textEnd
  else if ['b', 'B', '<', '>'].contains c then some wordBoundary
  else if c.isAlphanum then (control? c).map literal
  else if c ≤ '\x7f' then some (literal c)
  else none

/-- The values of `count` hexadecimal digits. -/
def hexDigits (mode : Mode) : (count : Nat) → TextReader (List Nat)
  | 0, text => some ([], text)
  | count + 1, text =>
    match mode.skip text with
    | [] => none
    | c :: text => do
      let value ← TextReader.digitValue? 16 c
      let (values, text) ← hexDigits mode count text
      return (value :: values, text)

/-- A character whose code point has `count` hexadecimal digits. -/
def codePoint (mode : Mode) (count : Nat) : TextReader Char := fun text => do
  let (digits, text) ← hexDigits mode count text
  let code := TextReader.numberOf 16 digits
  if code.isValidChar then some (Char.ofNat code, text) else none

/-- An escape, after its backslash. -/
def reader (mode : Mode) : TextReader Escape
  | [] => none
  | 'x' :: text => (codePoint mode 2 text).map fun (c, text) => (code c, text)
  | 'u' :: text => (codePoint mode 4 text).map fun (c, text) => (literal c, text)
  | 'U' :: text => (codePoint mode 8 text).map fun (c, text) => (literal c, text)
  | c :: text => (ofSign? c).map fun escape => (escape, text)

end Escape

end DatagramEcho.Pattern

import DatagramEcho.Text.Alphanumeric

/-!
# Modes of patterns

A pattern is a regular expression. Options inside a pattern switch the mode in which what follows is
read: whether case counts, whether the pattern is about characters or about bytes, and whether
blanks in the pattern count. Other options change what a pattern matches, but not how it is read.

The properties of characters outside of ASCII are not at hand. So a pattern about characters holds
no class of letters, digits or spaces, and no literal that stands for both of its cases.
-/

namespace DatagramEcho.Pattern

/-- How the next part of a pattern is read. -/
structure Mode where
  /-- Both cases of a letter are the same. -/
  caseless : Bool := false
  /-- The pattern is about characters, not about bytes. -/
  unicode : Bool := true
  /-- Blanks and comments in the pattern do not count. -/
  spaced : Bool := false
  deriving Repr, DecidableEq

/-- The signs of a list of options: the letters, and the dash before those that are switched off. -/
def optionSigns : List Char :=
  ['i', 's', 'm', 'U', 'u', 'R', 'x', '-']

/-- Whether a text is a list of options. No sign comes twice, and a dash comes before a letter. -/
def areOptions (text : List Char) : Bool :=
  text.length ≤ optionSigns.length && text.all optionSigns.contains &&
    text.eraseDups.length == text.length && text.getLast? != some '-'

/-- The text after blanks and comments at its front. A comment ends with its line. `comment` says
that the text starts inside one. -/
def skipSpace (comment : Bool) : List Char → List Char
  | [] => []
  | c :: text =>
    if comment then skipSpace (c != '\n') text
    else if Text.isBlank c then skipSpace false text
    else if c = '#' then skipSpace true text
    else c :: text

namespace Mode

/-- The mode after a list of options. -/
def switch (options : List Char) (mode : Mode) : Mode :=
  let setting (letter : Char) (before : Bool) : Bool :=
    if options.contains letter then (options.takeWhile (· ≠ '-')).contains letter else before
  { caseless := setting 'i' mode.caseless
    unicode := setting 'u' mode.unicode
    spaced := setting 'x' mode.spaced }

/-- The text from the next character on that counts. -/
def skip (mode : Mode) (text : List Char) : List Char :=
  if mode.spaced then skipSpace false text else text

/-- Whether characters can stand for themselves. -/
def takesLiterals (mode : Mode) : Bool :=
  !(mode.unicode && mode.caseless)

/-- Whether a set can hold what is not in a given set of ASCII characters. It cannot hold bytes
outside of ASCII, because they are no characters. -/
def takesComplements (mode : Mode) : Bool :=
  mode.unicode

/-- Whether `c` can be a member of a set. -/
def takesMember (mode : Mode) (c : Char) : Bool :=
  mode.takesLiterals && (mode.unicode || c ≤ '\x7f')

end Mode

end DatagramEcho.Pattern

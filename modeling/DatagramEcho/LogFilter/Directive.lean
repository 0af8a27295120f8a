import DatagramEcho.CommandLine.Number
import DatagramEcho.LogFilter.Field
import DatagramEcho.Text.Offset

/-!
# Directives of log filters

A directive gives a target, a level, or both as `target=level`; after the target it may name a span
between square brackets, and a field of the span between braces inside them.

Blanks around a directive do not count for its form. Its parts, however, are counted off in bytes
from the beginning of the directive with its blanks, at the places that they have without them. So
blanks in front shift the parts, and a part may begin or end inside a character. No log can be
started then.

* `Directive.check` reads one directive.
-/

namespace DatagramEcho.LogFilter

/-- What is wrong with a directive. -/
inductive Fault where
  /-- It does not have the form of a directive. -/
  | form
  /-- What should be a level is none. -/
  | level
  /-- A field has a value for which nothing can be matched. -/
  | field (fault : Pattern.Fault)
  /-- A part of it begins or ends inside a character. -/
  | cut
  deriving Repr, DecidableEq

/-- The names of the levels. -/
def levelNames : List String :=
  ["off", "error", "warn", "info", "debug", "trace"]

/-- The text of a fault for readers. Nobody reads of a cut, because it ends the program. -/
def Fault.message : Fault → String
  | form => "invalid filter directive"
  | level =>
    "error parsing level filter: expected one of " ++
      ", ".intercalate (levelNames.map fun name => "\"" ++ name ++ "\"") ++ ", or a number 0-5"
  | field fault => "invalid field filter: " ++ fault.message
  | cut => ""

/-- Whether a text is a level: a name in any case, or a number that is at most five. -/
def isLevel (text : String) : Bool :=
  levelNames.contains (text.map Char.toLower) ||
    match CommandLine.readNumber text with
    | .ok number => number < levelNames.length
    | .error _ => false

/-- A text without blanks at its ends. -/
def trimmed (text : List Char) : List Char :=
  ((text.dropWhile Text.isBlank).reverse.dropWhile Text.isBlank).reverse

/-- A directive. -/
structure Directive where
  /-- The directive as it is written. -/
  written : List Char
  deriving Repr

namespace Directive

/-- The directive without blanks around it. -/
def inner (directive : Directive) : List Char :=
  trimmed directive.written

/-- The part of a directive between the offsets that two places have without the blanks around it.
Each place is given by what follows it. -/
def part (directive : Directive) (start stop : List Char) : Except Fault (List Char) :=
  let offset (place : List Char) := Text.size directive.inner - Text.size place
  match Text.slice? directive.written (offset start) (offset stop) with
  | some text => .ok text
  | none => .error .cut

/-- The directive from the offset on that a place has without the blanks around it. -/
def partFrom (directive : Directive) (start : List Char) : Except Fault (List Char) :=
  match Text.cut? (Text.size directive.inner - Text.size start) directive.written with
  | some text => .ok text
  | none => .error .cut

/-- Check the level of a directive. Without a level every message passes. -/
def checkLevel (directive : Directive) (text : List Char) : Except Fault Unit := do
  let level ← directive.partFrom text
  if level.isEmpty || isLevel (String.ofList level) then .ok () else .error .level

/-- What follows a span: nothing, or a level. -/
def checkAfterSpan (directive : Directive) : List Char → Except Fault Unit
  | [] => .ok ()
  | '=' :: text => directive.checkLevel text
  | _ => .error .form

/-- The field of a span and what follows it. -/
def checkField (directive : Directive) (text : List Char) : Except Fault Unit :=
  match text.dropWhile (· ≠ '\x7d') with
  | [] => .error .form
  | c :: rest => do
    let field ← directive.part text (c :: rest)
    if field.isEmpty then .error .form
    (LogFilter.checkField field).mapError .field
    match rest with
    | ']' :: rest => directive.checkAfterSpan rest
    | _ => .error .form

/-- A span and what follows it. -/
def checkSpan (directive : Directive) (text : List Char) : Except Fault Unit :=
  match text.dropWhile fun c => c ≠ ']' ∧ c ≠ '\x7b' with
  | [] => .error .form
  | c :: rest => do
    let _ ← directive.part text (c :: rest)
    if c = ']' then directive.checkAfterSpan rest else directive.checkField rest

/-- A target and what follows it. -/
def checkTarget (directive : Directive) (text : List Char) : Except Fault Unit :=
  match text.dropWhile fun c => c ≠ '=' ∧ c ≠ '[' with
  | [] => .ok ()
  | c :: rest => do
    let _ ← directive.part text (c :: rest)
    if c = '=' then directive.checkLevel rest else directive.checkSpan rest

/-- Whether a directive can start with `c`, when it does not start with a span. -/
def startsTarget (c : Char) : Bool :=
  c == '-' || c == ':' || c == '_' || Text.isAlphanumeric c

/-- Check a directive. -/
def check (directive : Directive) : Except Fault Unit :=
  match directive.inner with
  | [] => .error .form
  | '[' :: text => directive.checkSpan text
  | c :: text => if startsTarget c then directive.checkTarget (c :: text) else .error .form

end Directive

end DatagramEcho.LogFilter

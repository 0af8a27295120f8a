import DatagramEcho.Binary64
import DatagramEcho.Toml.Mistake

/-!
# TOML values

A document is a table of values. Tables remember how they came about, because that decides whether
a later line of the same document may still add to them. Entries keep the order in which the
document defines them, and names and values keep the place where they are written.
-/

namespace DatagramEcho.Toml

/-- How a table came about. -/
inductive Origin where
  /-- It is written between braces, and closed. -/
  | braces
  /-- It has a header of its own. -/
  | header
  /-- It lies on the way to a table with a header. -/
  | implied
  /-- It lies on the way to a dotted key. -/
  | dotted
  deriving Repr, DecidableEq

/-- A value. -/
inductive Value where
  /-- A text. -/
  | string (text : String)
  /-- A whole number of 64 bits with a sign. -/
  | integer (value : Int)
  /-- A floating-point number. -/
  | float (value : Binary64)
  /-- A truth value. -/
  | boolean (value : Bool)
  /-- A date, a time, or both. -/
  | moment
  /-- An array written between brackets. -/
  | array (items : List (Located Value))
  /-- A table. -/
  | table (origin : Origin) (entries : List (Located String × Located Value))
  /-- An array of tables, each with a header of its own, the last one first. -/
  | tables (elements : List (Located (List (Located String × Located Value))))
  deriving Repr, Inhabited

/-- The entries of a table, in the order in which the document defines them. -/
abbrev Entries := List (Located String × Located Value)

namespace Entries

/-- The value of a key. -/
def get? (entries : Entries) (key : String) : Option (Located Value) :=
  (entries.find? (·.1.value == key)).map (·.2)

/-- The entries with another value for a key, which stays in its place. -/
def replace (entries : Entries) (key : String) (value : Located Value) : Entries :=
  entries.map fun entry => if entry.1.value = key then (entry.1, value) else entry

/-- The entries without a key. -/
def erase (entries : Entries) (key : String) : Entries :=
  entries.filter (·.1.value ≠ key)

end Entries

namespace Value

/-- What a value is called in a complaint about its type. -/
def typeName : Value → String
  | string _ => "string"
  | integer _ => "integer"
  | float _ => "float"
  | boolean _ => "boolean"
  | moment => "datetime"
  | array _ => "array"
  | table .braces _ => "inline table"
  | table _ _ => "table"
  | tables _ => "array of tables"

/-- The span of an array of tables of span `before` with one more table at its end. -/
def extendSpan (before element : Option Span) : Option Span :=
  match before, element with
  | some first, some last => some (first.join last)
  | none, element => element
  | before, none => before

end Value

end DatagramEcho.Toml

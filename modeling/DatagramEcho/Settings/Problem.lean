import DatagramEcho.Text.Quoted
import DatagramEcho.Toml.Value

/-!
# Problems with settings

A valid document may still give a setting a value of the wrong shape. A `Problem` says what was
found and what was wanted, and `Problem.message` puts it into words. A `Misfit` is a problem
together with the keys that lead to it and the stretch of the document where it was met.
-/

namespace DatagramEcho.Settings

/-- Why a value does not fit a setting. -/
inductive Problem where
  /-- The value has another type than the setting. -/
  | wrongType (found : Toml.Value) (wanted : String)
  /-- A number is below zero. -/
  | negative (found : Int) (wanted : String)
  /-- A choice has a name that is not among the names of the setting. -/
  | unknownChoice (name : String) (names : List String)
  /-- A choice is neither a name nor a table. -/
  | noChoice
  /-- A choice is a table without a key. -/
  | emptyChoice
  /-- A choice is a table with several keys. -/
  | severalChoices
  /-- The value beside the name of a choice is not a table. -/
  | choiceWithValue (found : Toml.Value)
  /-- The value beside the name of a choice holds something. -/
  | choiceWithContent (found : Toml.Value)
  deriving Repr

namespace Problem

/-- What a value is called in a complaint about the type of a setting. -/
def describe : Toml.Value → String
  | .string text => "string " ++ Text.quoted text
  | .integer value => s!"integer `{value}`"
  | .float value => "floating point `" ++ value.text ++ "`"
  | .boolean value => s!"boolean `{value}`"
  | .array _ | .tables _ => "sequence"
  | .table _ _ | .moment => "map"

/-- Names in a complaint about a choice. -/
def alternatives : List String → String
  | [first, second] => s!"`{first}` or `{second}`"
  | names => "one of " ++ ", ".intercalate (names.map fun name => s!"`{name}`")

/-- The text of a problem for readers. -/
def message : Problem → String
  | wrongType found wanted => "invalid type: " ++ describe found ++ ", expected " ++ wanted
  | negative found wanted => s!"invalid value: integer `{found}`, expected " ++ wanted
  | unknownChoice name names =>
    s!"unknown variant `{name}`, expected " ++ alternatives names
  | noChoice => "wanted string or table"
  | emptyChoice => "wanted exactly 1 element, found 0 elements"
  | severalChoices => "wanted exactly 1 element, more than 1 element"
  | choiceWithValue found => "expected table, found " ++ found.typeName
  | choiceWithContent (.tables _) => "expected empty array"
  | choiceWithContent _ => "expected empty table"

end Problem

/-- A problem and where it was met. -/
structure Misfit where
  /-- What does not fit. -/
  problem : Problem
  /-- The keys that lead to the value, the outermost one first. -/
  keys : List String := []
  /-- Where the value is written. -/
  span : Option Toml.Span := none
  deriving Repr

namespace Misfit

/-- The misfit was met in a value with the given span. A narrower span stays. -/
def within (span : Option Toml.Span) (misfit : Misfit) : Misfit :=
  { misfit with span := misfit.span.or span }

/-- The misfit was met in the value of a key. A value that is written nowhere has the span of its
key. -/
def under (key : Toml.Located String) (misfit : Misfit) : Misfit :=
  { misfit.within key.span with keys := key.value :: misfit.keys }

end Misfit

end DatagramEcho.Settings

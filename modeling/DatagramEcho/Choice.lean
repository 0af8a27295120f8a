/-!
# Named choices

A setting with a fixed set of values is written by name, on the command line and in a
configuration file alike. `Choice` lists the values of such a type with their names, in the order
in which messages enumerate them.
-/

namespace DatagramEcho

/-- A type whose values are written by name. -/
class Choice (α : Type) where
  /-- Every value, in the order of declaration. -/
  values : List α
  /-- The written form of a value. -/
  name : α → String

namespace Choice

variable {α : Type} [Choice α]

/-- The value written `text`. Names are matched exactly, letter case included. -/
def ofName? (text : String) : Option α :=
  (values : List α).find? fun value => name value == text

/-- The names of all values of `α`. -/
def names (α : Type) [Choice α] : List String :=
  (values : List α).map name

end Choice

end DatagramEcho

import DatagramEcho.Settings.Decode
import DatagramEcho.Toml.Document

/-!
# Settings files

The text of a settings file is a document. It may fail to be valid, or be valid and hold something
that is no setting. A `Defect` keeps the text beside what is wrong with it, and `Defect.parts` shows
both.
-/

namespace DatagramEcho.Settings

/-- What is wrong with the text of a settings file. -/
inductive Flaw where
  /-- It is not a valid document. -/
  | invalid (mistake : Toml.Mistake)
  /-- A value in it does not fit. -/
  | misfit (found : Misfit)
  deriving Repr

namespace Flaw

/-- The text of a flaw for readers. -/
def message : Flaw → String
  | invalid mistake => mistake.message
  | misfit found => found.problem.message

/-- The keys that lead to a flaw. -/
def keys : Flaw → List String
  | invalid _ => []
  | misfit found => found.keys

/-- Where a flaw is. A text that is not valid is shown where its reading stopped. -/
def span? : Flaw → Option Toml.Span
  | invalid mistake => some (.first mistake.place)
  | misfit found => found.span

end Flaw

/-- Why a text holds no settings. -/
structure Defect where
  /-- The text. -/
  text : String
  /-- What is wrong with it. -/
  flaw : Flaw
  deriving Repr

namespace Defect

/-- A span as offsets in bytes. -/
def spanParts (text : String) : Option Toml.Span → String
  | none => "None"
  | some span =>
    let (start, stop) := span.offsets text.toList
    s!"Some({start}..{stop})"

/-- The text of a defect that names its parts. -/
def parts (defect : Defect) : String :=
  "TomlError \x7b message: " ++ Text.quoted defect.flaw.message ++
    ", raw: Some(" ++ Text.quoted defect.text ++ ")" ++
    ", keys: [" ++ ", ".intercalate (defect.flaw.keys.map Text.quoted) ++ "]" ++
    ", span: " ++ spanParts defect.text defect.flaw.span? ++ " \x7d"

end Defect

/-- The settings in a text. -/
def ofText (text : String) : Except Defect Settings :=
  match Toml.document text with
  | .error mistake => .error ⟨text, .invalid mistake⟩
  | .ok entries => (ofEntries entries).mapError fun found => ⟨text, .misfit found⟩

end DatagramEcho.Settings

import DatagramEcho.Pattern.Reading

/-!
# Checking patterns

A pattern can be used if it is well formed, is not nested too deeply, and does not ask for the ends
of words among characters.
-/

namespace DatagramEcho.Pattern

/-- Why a pattern cannot be used. -/
inductive Fault where
  /-- It is not well formed, or it holds what cannot be decided. -/
  | malformed
  /-- It asks for the ends of words, which take more than the next character to find. -/
  | wordBoundary
  deriving Repr, DecidableEq

/-- The text of a fault for readers. -/
def Fault.message : Fault → String
  | malformed => "error building NFA"
  | wordBoundary =>
    "unsupported regex feature for DFAs: cannot build DFAs for regexes with Unicode word " ++
      "boundaries; switch to ASCII word boundaries, or heuristically enable Unicode word " ++
      "boundaries or use a different regex engine"

/-- Whether a pattern can be used. -/
def check (text : List Char) : Except Fault Unit :=
  match Reading.rest? {} text text with
  | none => .error .malformed
  | some reading =>
    if ¬ reading.outer.isEmpty ∨ reading.level.depth > maxDepth then .error .malformed
    else if reading.wordBoundary then .error .wordBoundary
    else .ok ()

end DatagramEcho.Pattern

import DatagramEcho.LogFilter.Directive

/-!
# Log filters

A log filter is a list of directives with commas between them. The log takes its filter from the
environment of the program, and from the log level of the configuration only if the environment has
none that it understands.

* A filter from the environment is taken as it is: one directive that is not understood, and be it
  an empty one, makes the log look at the log level instead.
* In a log level empty directives say nothing. Any other directive that is not understood is
  ignored, and the log says so once when it starts.

A directive that is cut inside a character keeps the log from starting, and with it the program.
-/

namespace DatagramEcho

/-- How the start of a log goes. -/
structure Log where
  /-- Whether the log starts. -/
  starts : Bool
  /-- The messages about directives that are ignored, up to one that keeps the log from starting. -/
  complaints : List String
  deriving Repr, DecidableEq

namespace LogFilter

/-- A directive with what is wrong with it, if anything is. -/
structure Verdict where
  /-- The directive. -/
  directive : Directive
  /-- What is wrong with it. -/
  fault? : Option Fault
  deriving Repr

namespace Verdict

/-- The verdict on a directive. -/
def of (text : List Char) : Verdict :=
  let directive : Directive := ⟨text⟩
  match directive.check with
  | .ok () => ⟨directive, none⟩
  | .error fault => ⟨directive, some fault⟩

/-- Whether the log can go on to the next directive. -/
def goesOn (verdict : Verdict) : Bool :=
  verdict.fault? != some .cut

/-- The message about a directive, if it is ignored. -/
def complaint? (verdict : Verdict) : Option String :=
  verdict.fault?.map fun fault =>
    s!"ignoring `{String.ofList verdict.directive.written}`: " ++ fault.message

end Verdict

/-- The directives of a filter. -/
def directives (filter : String) : List (List Char) :=
  Text.split ',' filter.toList

/-- The log with a log level as its filter. -/
def ofLevel (level : String) : Log :=
  let verdicts := ((directives level).filter (· ≠ [])).map Verdict.of
  { starts := verdicts.all Verdict.goesOn
    complaints := (verdicts.takeWhile Verdict.goesOn).filterMap Verdict.complaint? }

/-- The log with a filter from the environment. There is none if a directive is not understood; what
comes after that directive does not matter. The empty filter has no directives. -/
def ofEnvironment? (filter : String) : Option Log :=
  let verdicts := if filter = "" then [] else (directives filter).map Verdict.of
  match verdicts.find? (·.fault?.isSome) with
  | none => some ⟨true, []⟩
  | some verdict => if verdict.goesOn then none else some ⟨false, []⟩

end LogFilter

/-- The log of the program. `environment` is the filter in its environment, if there is one. -/
def Log.start (environment : Option String) (level : String) : Log :=
  (environment.bind LogFilter.ofEnvironment?).getD (LogFilter.ofLevel level)

end DatagramEcho

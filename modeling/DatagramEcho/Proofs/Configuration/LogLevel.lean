import DatagramEcho.Proofs.CommandLine.Spelled
import DatagramEcho.Proofs.Configuration.Resolution

/-!
# The log level

A log level is given on the command line or stated in the settings file, and otherwise it is the
default. Arguments hold a level in any case. Whether it was given can no longer be told from them if
it is the default, and then what the file states counts.

* `logLevel_eq_of_load`: the level of a configuration, from arguments and file.
* `GivesWay`: a given level that is lost to the file.
* `logLevel_of_load`: the level of a configuration, from the words of the command line and the file.
-/

namespace DatagramEcho.Configuration

open CommandLine

variable {words : List String} {read : String → Except Fault String} {arguments : Arguments}
  {configuration : Configuration}

/-- The log level of a configuration does not depend on the side that is to run. -/
theorem logLevel_of_resolve {settings : Settings}
    (hresolve : arguments.resolve settings = .ok configuration) :
    configuration.logLevel = arguments.resolveLogLevel settings := by
  unfold Arguments.resolve at hresolve
  -- the two sides differ in the mode only
  split at hresolve
  all_goals
    obtain ⟨mode, -, hresolve⟩ := exists_of_bind_eq_ok hresolve
    cases hresolve
    rfl

/-- The level of the arguments counts, unless it is the default. Then the file comes first. -/
theorem logLevel_eq_of_load (hload : load read arguments = .ok configuration) :
    configuration.logLevel =
      if arguments.logLevel = "info" then (stated read arguments).level.getD "info"
      else arguments.logLevel := by
  rw [load_eq_resolve (legible_of_load hload)] at hload
  rw [logLevel_of_resolve hload, Arguments.resolveLogLevel, ite_not]
  rfl

/-- A given level gives way to the file if it is the default and the file states another one. -/
def GivesWay (level : String) (stated? : Option String) : Prop :=
  level = "info" ∧ ∃ other, stated? = some other ∧ other ≠ level

/-- The level that arguments and file lead to is the one of the arguments, unless that gives way. -/
theorem ite_eq_self_iff_not_givesWay (level : String) (stated? : Option String) :
    (if level = "info" then stated?.getD "info" else level) = level ↔ ¬ GivesWay level stated? := by
  unfold GivesWay
  split_ifs with hlevel
  -- the default is kept where the file states nothing, or the default as well
  · cases stated? with
    | none => simp [hlevel]
    | some other => simp [hlevel]
  · simp [hlevel]

/-- The log level of a configuration, where the words of the command line spell at most one. If they
spell none, it is what the file states, or else the default. If they spell one, it is that one,
unless they spell the default and the file states something else. In that case alone the file
counts. -/
theorem logLevel_of_load (hwords : Arguments.ofWords words = .ok arguments)
    (hload : load read arguments = .ok configuration) :
    let given := spelled "log-level" words
    let stated? := (stated read arguments).level
    (given = [] → configuration.logLevel = stated?.getD "info") ∧
      ∀ level, given = [level] →
        (configuration.logLevel = level ↔ ¬ GivesWay level stated?) ∧
          (GivesWay level stated? → stated? = some configuration.logLevel) := by
  intro given stated?
  -- the words decide the level of the arguments, which with the file decides the rest
  obtain ⟨hnone, hone⟩ := logLevel_of_ofWords hwords
  rw [logLevel_eq_of_load hload]
  constructor
  · intro hgiven
    rw [hnone hgiven, if_pos rfl]
  · intro level hgiven
    rw [hone level hgiven]
    refine ⟨ite_eq_self_iff_not_givesWay level stated?, ?_⟩
    rintro ⟨rfl, other, hother, -⟩
    calc stated? = some other := hother
      _ = some (stated?.getD "info") := by rw [hother, Option.getD_some]
      _ = some _ := by rw [if_pos rfl]

/-- The contents of a folder in which one file states a log level. -/
def debugFile (path : String) : Except Fault String :=
  if path = "settings.toml" then .ok "[logging]\nlevel = \"debug\"\n" else .error .noSuchFile

/-- A level other than the default, given after the command, counts more than the file. -/
theorem logLevel_eq_warn_of_spelled :
    let words := ["--config", "settings.toml", "server", "--log-level=warn"]
    spelled "log-level" words = ["warn"] ∧
      ∃ arguments configuration, Arguments.ofWords words = .ok arguments ∧
        load debugFile arguments = .ok configuration ∧ configuration.logLevel = "warn" := by
  intro words
  have hwords : Arguments.ofWords words =
      .ok { config := some "settings.toml", logLevel := "warn", side := .server {} } := rfl
  have hload : load debugFile
      { config := some "settings.toml", logLevel := "warn", side := .server {} } =
        .ok ⟨.server .standard, "warn"⟩ := eq_ok_of_toOption_eq_some (by decide +kernel)
  have hgiven : spelled "log-level" words = ["warn"] := by decide
  have hwarn (stated? : Option String) : ¬ GivesWay "warn" stated? :=
    fun hlost => absurd hlost.1 (by decide)
  exact ⟨hgiven, _, _, hwords, hload,
    ((logLevel_of_load hwords hload).2 "warn" hgiven).1.mpr (hwarn _)⟩

/-- The default, given in so many words, is lost to the file. -/
theorem logLevel_ne_info_of_spelled :
    let words := ["--config", "settings.toml", "--log-level", "info", "server"]
    spelled "log-level" words = ["info"] ∧
      ∃ arguments configuration, Arguments.ofWords words = .ok arguments ∧
        load debugFile arguments = .ok configuration ∧ configuration.logLevel = "debug" ∧
          ¬ configuration.logLevel = "info" := by
  intro words
  have hwords : Arguments.ofWords words =
      .ok { config := some "settings.toml", logLevel := "info", side := .server {} } := rfl
  have hload : load debugFile
      { config := some "settings.toml", logLevel := "info", side := .server {} } =
        .ok ⟨.server .standard, "debug"⟩ := eq_ok_of_toOption_eq_some (by decide +kernel)
  exact ⟨by decide, _, _, hwords, hload, rfl, by decide⟩

end DatagramEcho.Configuration

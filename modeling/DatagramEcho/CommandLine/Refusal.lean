import DatagramEcho.CommandLine.Grammar
import DatagramEcho.CommandLine.Number
import DatagramEcho.Text.Plain

/-!
# Refused command lines

A command line that does not lead to a run is refused. Among the refusals are the requests for help
and for the version, which are no errors: they leave the program with exit code zero.
-/

namespace DatagramEcho.CommandLine

/-- Why a command line does not lead to a run. -/
inductive Refusal where
  /-- It asks for the help of a command. -/
  | help (about : String)
  /-- It asks for the version. -/
  | version
  /-- It is empty, and gets the help of the program. -/
  | missingArguments (about : String)
  /-- It names no command. -/
  | missingCommand
  /-- It holds a word that the command does not know. -/
  | unknownArgument (word : String)
  /-- It names a command that does not exist. -/
  | unknownCommand (word : String)
  /-- It gives an option more than once. -/
  | repeated (opt : Opt)
  /-- It gives an option without a value. -/
  | valueRequired (opt : Opt)
  /-- It gives an option a value that is no number. -/
  | invalidNumber (opt : Opt) (text : String) (fault : NumberFault)
  /-- It gives an option a name that is not one of its names. -/
  | invalidChoice (opt : Opt) (text : String)
  /-- It gives a value to something that takes none. -/
  | unexpectedValue (text : String) (name : String)
  deriving Repr

namespace Refusal

/-- The name of the kind of refusal. -/
def kind : Refusal → String
  | help _ => "DisplayHelp"
  | version => "DisplayVersion"
  | missingArguments _ => "DisplayHelpOnMissingArgumentOrSubcommand"
  | missingCommand => "MissingSubcommand"
  | unknownArgument _ => "UnknownArgument"
  | unknownCommand _ => "InvalidSubcommand"
  | repeated _ => "ArgumentConflict"
  | valueRequired _ | invalidChoice _ _ => "InvalidValue"
  | invalidNumber _ _ _ => "ValueValidation"
  | unexpectedValue _ _ => "TooManyValues"

/-- The text of a refusal. Words of the command line are shown as `clean` leaves them. -/
def text (clean : String → String) : Refusal → String
  | help about | missingArguments about => about
  | version => versionText
  | missingCommand =>
    "error: '" ++ programName ++ "' requires a subcommand but one was not provided"
  | unknownArgument word => "error: unexpected argument '" ++ clean word ++ "' found"
  | unknownCommand word => "error: unrecognized subcommand '" ++ clean word ++ "'"
  | repeated opt => "error: the argument '" ++ opt.text ++ "' cannot be used multiple times"
  | valueRequired opt => "error: a value is required for '" ++ opt.text ++ "' but none was supplied"
  | invalidNumber opt text fault =>
    "error: invalid value '" ++ clean text ++ "' for '" ++ opt.text ++ "': " ++ fault.message
  | invalidChoice opt text =>
    "error: invalid value '" ++ clean text ++ "' for '" ++ opt.text ++ "'"
  | unexpectedValue text name =>
    "error: unexpected value '" ++ clean text ++ "' for '" ++ name ++
      "' found; no more were expected"

/-- The first line of a text, without its line break. -/
def firstLine (text : String) : String :=
  let line := text.toList.takeWhile (· ≠ '\n')
  let broken := line.length < text.length
  if broken && line.getLast? == some '\r' then String.ofList line.dropLast else String.ofList line

/-- The first line of the message of a refusal. -/
def message (refusal : Refusal) : String :=
  firstLine (refusal.text Text.plain)

/-- The exit code of the program. -/
def exitCode : Refusal → Nat
  | help _ | version => 0
  | _ => 2

end Refusal

end DatagramEcho.CommandLine

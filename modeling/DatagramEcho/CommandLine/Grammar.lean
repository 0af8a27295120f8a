import DatagramEcho.Server.Bound

/-!
# The command line

The first word that is no option names the side of the exchange to run. Each side has options of its
own, and two options, the settings file and the log level, are understood before and after it. The
tables of this module are all that the reader of the command line knows about them.
-/

namespace DatagramEcho.CommandLine

/-- What the value of an option may be. -/
inductive Form where
  /-- Any text. -/
  | text
  /-- A file name, which is not empty. -/
  | path
  /-- A number of 64 bits without a sign. -/
  | number
  /-- One of some names. -/
  | choice (names : List String)
  deriving Repr, DecidableEq

/-- An option, which always takes a value. -/
structure Opt where
  /-- The name after two dashes. -/
  long : String
  /-- The letter after one dash. -/
  short : Option Char := none
  /-- What messages call the value. -/
  valueName : String
  /-- What the value may be. -/
  form : Form := .text
  /-- Whether the option may be given more than once. -/
  repeatable : Bool := false
  deriving Repr, DecidableEq

/-- An option as messages name it. -/
def Opt.text (opt : Opt) : String :=
  "--" ++ opt.long ++ " <" ++ opt.valueName ++ ">"

/-- What may follow the name of a program or of one of its commands. -/
structure Command where
  /-- One line on what the command does. -/
  about : String
  /-- The options it takes. -/
  options : List Opt
  /-- Whether it tells its version. -/
  tellsVersion : Bool := false
  /-- The commands inside it. -/
  commands : List String := []
  deriving Repr

/-- The option that names the settings file. -/
def configOption : Opt :=
  { long := "config", short := some 'c', valueName := "CONFIG", form := .path }

/-- The option that sets the log level. -/
def logLevelOption : Opt :=
  { long := "log-level", valueName := "LOG_LEVEL" }

/-- The options that are understood everywhere. -/
def commonOptions : List Opt := [configOption, logLevelOption]

/-- An option that sets the capacity of the receive buffer. -/
def bufferSizeOption : Opt :=
  { long := "buffer-size", short := some 'b', valueName := "BUFFER_SIZE", form := .number }

/-- An option that sets the treatment of empty datagrams. -/
def emptyPolicyOption : Opt :=
  { long := "empty-policy", valueName := "EMPTY_POLICY"
    form := .choice (Choice.names EmptyPolicy) }

/-- An option that sets the transform. -/
def transformOption : Opt :=
  { long := "transform", valueName := "TRANSFORM", form := .choice (Choice.names Transform) }

/-- The options of a server. -/
def serverOptions : List Opt :=
  [{ long := "listen", short := some 'l', valueName := "LISTEN" },
    bufferSizeOption, emptyPolicyOption, transformOption,
    { long := "runtime", valueName := "RUNTIME", form := .choice (Choice.names EventLoop) }]

/-- The options of a client. -/
def clientOptions : List Opt :=
  [{ long := "target", short := some 't', valueName := "TARGET" },
    { long := "bind", valueName := "BIND" },
    bufferSizeOption,
    { long := "timeout-ms", valueName := "TIMEOUT_MS", form := .number },
    { long := "silence-ms", valueName := "SILENCE_MS", form := .number },
    emptyPolicyOption, transformOption,
    { long := "payload", short := some 'p', valueName := "PAYLOADS", repeatable := true }]

/-- The name of the program. -/
def programName : String := "udp-echo"

/-- The name and version of the program. -/
def versionText : String := programName ++ " 0.1.0"

/-- The command that runs a server. -/
def serverCommand : Command where
  about := "Run the echo server until killed"
  options := serverOptions ++ commonOptions

/-- The command that runs a client. -/
def clientCommand : Command where
  about := "Run the scripted client once and exit"
  options := clientOptions ++ commonOptions

/-- The command that explains the others. -/
def helpCommand : Command where
  about := "Print this message or the help of the given subcommand(s)"
  options := []

/-- The program itself. -/
def program : Command where
  about := "UDP echo server and validation client"
  options := commonOptions
  tellsVersion := true
  commands := ["server", "client", "help"]

/-- The command of a name inside the program. -/
def command? : String → Option Command
  | "server" => some serverCommand
  | "client" => some clientCommand
  | "help" => some helpCommand
  | _ => none

end DatagramEcho.CommandLine

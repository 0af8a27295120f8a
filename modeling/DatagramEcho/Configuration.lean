import DatagramEcho.Client.Run
import DatagramEcho.CommandLine.Arguments
import DatagramEcho.Network.Address.Reader
import DatagramEcho.Settings.File

/-!
# Configuration

A configuration is put together from the command line, the settings file that it names, and the
defaults. Each option is taken from the first of these that gives it, and only what was taken is
checked: the addresses first, then the buffer size.

* `Arguments.resolve` joins arguments and settings.
* `Configuration.load` reads the settings file before that.
-/

namespace DatagramEcho

/-- What the program is to do. -/
inductive Mode where
  /-- Run a server. -/
  | server (config : Server.Config)
  /-- Run a client. -/
  | client (config : Client.Config)
  deriving Repr, DecidableEq

/-- A configuration that has passed all checks. -/
structure Configuration where
  /-- What to do. -/
  mode : Mode
  /-- The log level. -/
  logLevel : String
  deriving Repr, DecidableEq

namespace Configuration

/-- Why there is no configuration. -/
inductive Problem where
  /-- The settings file could not be read. -/
  | unreadable (path : String) (fault : Fault)
  /-- The settings file holds no settings. -/
  | defective (path : String) (defect : Settings.Defect)
  /-- An address is not one. -/
  | invalidAddress (text : String)
  /-- The capacity of the receive buffer is out of range. -/
  | invalidBufferSize (size : Nat)
  deriving Repr

namespace Problem

/-- The name of the kind of problem. -/
def name : Problem → String
  | unreadable _ _ => "FileRead"
  | defective _ _ => "TomlParse"
  | invalidAddress _ => "InvalidAddress"
  | invalidBufferSize _ => "InvalidBufferSize"

/-- The text of a problem for readers. -/
def message : Problem → String
  | unreadable path fault => "Failed to read config file '" ++ path ++ "': " ++ fault.message
  | defective path defect =>
    "Failed to parse config file '" ++ path ++ "': " ++ defect.flaw.message
  | invalidAddress text => "Invalid socket address '" ++ text ++ "': invalid socket address syntax"
  | invalidBufferSize size => Failure.bufferSizeMessage size

/-- The text of a problem that names its parts. -/
def parts (problem : Problem) : String :=
  let inner := match problem with
    | unreadable path fault => Text.quoted path ++ ", " ++ fault.parts
    | defective path defect => Text.quoted path ++ ", " ++ defect.parts
    | invalidAddress text => Text.quoted text ++ ", AddrParseError(Socket)"
    | invalidBufferSize size => toString size
  problem.name ++ "(" ++ inner ++ ")"

end Problem

/-- The address that a text spells. -/
def readAddress (text : String) : Except Problem SocketAddress :=
  match SocketAddress.ofText? text with
  | some address => .ok address
  | none => .error (.invalidAddress text)

/-- A buffer size that has passed its check. -/
def checkBufferSize (size : Nat) : Except Problem Nat :=
  if ValidBufferSize size then .ok size else .error (.invalidBufferSize size)

end Configuration

namespace CommandLine

open DatagramEcho.Configuration

/-- The configuration of a server. -/
def ServerArguments.resolve (arguments : ServerArguments) (settings : Settings.Server) :
    Except Configuration.Problem Server.Config := do
  let listen ← readAddress (arguments.listen.getD settings.listen)
  let bufferSize ← checkBufferSize (arguments.bufferSize.getD settings.bufferSize)
  return {
    listen, bufferSize
    contract := ⟨arguments.emptyPolicy.getD settings.emptyPolicy,
      arguments.transform.getD settings.transform⟩
    eventLoop := arguments.eventLoop.getD settings.eventLoop }

/-- A time to wait in milliseconds, where zero waits forever. -/
def timeout (milliseconds : Nat) : Option TimeSpan :=
  if milliseconds = 0 then none else some (.ofMilliseconds milliseconds)

/-- The configuration of a client. -/
def ClientArguments.resolve (arguments : ClientArguments) (settings : Settings.Client) :
    Except Configuration.Problem Client.Config := do
  let payloads := if arguments.payloads.isEmpty then settings.payloads else arguments.payloads
  let target ← readAddress (arguments.target.getD settings.target)
  let bind ← readAddress (arguments.bind.getD settings.bind)
  let bufferSize ← checkBufferSize (arguments.bufferSize.getD settings.bufferSize)
  return {
    target, bind, bufferSize
    timeout := timeout (arguments.timeoutMs.getD settings.timeoutMs)
    silenceWindow := .ofMilliseconds (arguments.silenceMs.getD settings.silenceMs)
    contract := ⟨arguments.emptyPolicy.getD settings.emptyPolicy,
      arguments.transform.getD settings.transform⟩
    payloads := payloads.map fun payload => payload.toUTF8.toList }

/-- The log level. The default on the command line gives way to the settings. -/
def Arguments.resolveLogLevel (arguments : Arguments) (settings : Settings) : String :=
  if arguments.logLevel ≠ "info" then arguments.logLevel else settings.logging.level

/-- The configuration that arguments and settings give together. -/
def Arguments.resolve (arguments : Arguments) (settings : Settings) :
    Except Configuration.Problem Configuration := do
  let mode ← match arguments.side with
    | .server server => Mode.server <$> server.resolve settings.server
    | .client client => Mode.client <$> client.resolve settings.client
  return ⟨mode, arguments.resolveLogLevel settings⟩

end CommandLine

namespace Configuration

/-- The settings in the file at `path`, of which `contents` is the text. -/
def readSettings (path : String) (contents : Except Fault String) : Except Problem Settings :=
  match contents with
  | .error fault => .error (.unreadable path fault)
  | .ok text =>
    match Settings.ofText text with
    | .error defect => .error (.defective path defect)
    | .ok settings => .ok settings

/-- The configuration that the arguments give where `read` reads files. -/
def load (read : String → Except Fault String) (arguments : CommandLine.Arguments) :
    Except Problem Configuration := do
  let settings ← match arguments.config with
    | some path => readSettings path (read path)
    | none => .ok {}
  arguments.resolve settings

end Configuration

end DatagramEcho

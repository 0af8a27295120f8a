import DatagramEcho.CommandLine.Reading

/-!
# Arguments

The arguments are what an accepted command line says, option by option.

* `Arguments.ofWords` reads a command line.
-/

namespace DatagramEcho.CommandLine

/-- What a command line says about a server. -/
structure ServerArguments where
  /-- The address to receive on. -/
  listen : Option String := none
  /-- The capacity of the receive buffer. -/
  bufferSize : Option Nat := none
  /-- The treatment of empty datagrams. -/
  emptyPolicy : Option EmptyPolicy := none
  /-- The transform applied to replies. -/
  transform : Option Transform := none
  /-- The event loop. -/
  eventLoop : Option EventLoop := none
  deriving Repr, DecidableEq

/-- What a command line says about a client. -/
structure ClientArguments where
  /-- The address to send to. -/
  target : Option String := none
  /-- The address of the client's own socket. -/
  bind : Option String := none
  /-- The capacity of the receive buffer. -/
  bufferSize : Option Nat := none
  /-- How long to wait for a reply, in milliseconds. -/
  timeoutMs : Option Nat := none
  /-- How long silence has to last, in milliseconds. -/
  silenceMs : Option Nat := none
  /-- The treatment of empty datagrams that the server is expected to apply. -/
  emptyPolicy : Option EmptyPolicy := none
  /-- The transform that the server is expected to apply. -/
  transform : Option Transform := none
  /-- The payloads to send, in order. -/
  payloads : List String := []
  deriving Repr, DecidableEq

/-- Which side of the exchange to run. -/
inductive Side where
  /-- A server. -/
  | server (arguments : ServerArguments)
  /-- A client. -/
  | client (arguments : ClientArguments)
  deriving Repr, DecidableEq

/-- What a command line says. -/
structure Arguments where
  /-- The settings file. -/
  config : Option String := none
  /-- The log level. -/
  logLevel : String := "info"
  /-- The side to run. -/
  side : Side
  deriving Repr, DecidableEq

/-- The options given, with their values. -/
abbrev Given := List (String × String)

namespace Given

/-- The value of an option. -/
def text? (given : Given) (long : String) : Option String :=
  List.lookup long given

/-- The value of an option that takes a number. -/
def number? (given : Given) (long : String) : Option Nat :=
  (given.text? long).bind fun text => (readNumber text).toOption

/-- The value of an option that takes a name. -/
def choice? {α : Type} [Choice α] (given : Given) (long : String) : Option α :=
  (given.text? long).bind Choice.ofName?

/-- The values of an option that may be repeated, in order. -/
def texts (given : Given) (long : String) : List String :=
  given.filterMap fun entry => if entry.1 = long then some entry.2 else none

/-- The options of a server. -/
def server (given : Given) : ServerArguments where
  listen := given.text? "listen"
  bufferSize := given.number? "buffer-size"
  emptyPolicy := given.choice? "empty-policy"
  transform := given.choice? "transform"
  eventLoop := given.choice? "runtime"

/-- The options of a client. -/
def client (given : Given) : ClientArguments where
  target := given.text? "target"
  bind := given.text? "bind"
  bufferSize := given.number? "buffer-size"
  timeoutMs := given.number? "timeout-ms"
  silenceMs := given.number? "silence-ms"
  emptyPolicy := given.choice? "empty-policy"
  transform := given.choice? "transform"
  payloads := given.texts "payload"

end Given

/-- The refusal of a request for help on the command that `words` name. -/
def helpOn : List String → Refusal
  | [] => .help program.about
  | word :: words =>
    match command? word, words with
    | none, _ => .unknownCommand word
    | some command, [] => .help command.about
    | some _, next :: _ => .unknownCommand next

/-- The options of one command, all checked. -/
def readOptions (command : Command) (words : List String) : Except Refusal Given := do
  let (reading, _) ← readWords command {} false words
  return (← reading.settle).given

/-- Put together what was given before and after the name of the command. A common option that was
given on both sides counts on the inner side. -/
def Arguments.ofGiven (outer inner : Given) (side : Side) : Arguments where
  config := (inner.text? "config").or (outer.text? "config")
  logLevel := ((inner.text? "log-level").or (outer.text? "log-level")).getD "info"
  side := side

/-- The arguments that a command line gives. The words after the command are checked before those in
front of it. -/
def Arguments.ofWords (words : List String) : Except Refusal Arguments := do
  let (reading, rest?) ← readWords program {} false words
  match rest? with
  | none =>
    let outer := (← reading.settle).given
    if outer.isEmpty then throw (.missingArguments program.about) else throw .missingCommand
  | some ("server", rest) =>
    let inner ← readOptions serverCommand rest
    let outer := (← reading.settle).given
    return .ofGiven outer inner (.server (Given.server inner))
  | some ("client", rest) =>
    let inner ← readOptions clientCommand rest
    let outer := (← reading.settle).given
    return .ofGiven outer inner (.client (Given.client inner))
  | some (_, rest) => throw (helpOn rest)

end DatagramEcho.CommandLine

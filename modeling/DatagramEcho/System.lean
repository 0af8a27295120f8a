import DatagramEcho.Program

/-!
# Systems

The program is written once, over whatever system it runs on. A `System` reads files, names the log
filter of the environment, shows messages, and carries datagrams; all of this happens in a monad.
The definitions here only say what is asked of the system, and in which order.

There are two systems: `Host.system`, on which the program is a function, and the operating system.
On the first one the program does what `Program.run` says (`Program.run_eq_run_system`).
-/

namespace DatagramEcho

/-- What the program asks of the system that it runs on, where `σ` are the sockets. -/
structure System (m : Type → Type) (σ : Type) where
  /-- The text of the file at a path. -/
  read : String → m (Except Fault String)
  /-- The log filter in the environment, if there is one. -/
  environment : m (Option String)
  /-- Write a line to standard output. -/
  print : String → m Unit
  /-- Write a line to standard error. -/
  warn : String → m Unit
  /-- Bind a socket to an address. -/
  bind : SocketAddress → m (Except Fault σ)
  /-- Give a socket its destination. -/
  connect : σ → SocketAddress → m (Except Fault σ)
  /-- The address of a socket. -/
  address : σ → SocketAddress
  /-- Send a datagram to the destination of a socket. -/
  send : σ → Payload → m (Except Fault Unit)
  /-- Wait at most so long, or forever, for the next datagram, with room for so many bytes. -/
  await : σ → Option TimeSpan → Nat → m Arrival
  /-- Answer the datagrams at the socket of a server until the process is killed. -/
  serve : Server.Config → σ → m Unit

namespace System

open Program

variable {m : Type → Type} [Monad m] {σ : Type} (system : System m σ)

/-- Bind the socket of a server. -/
def openServer (config : Server.Config) : m (Except Failure σ) := do
  if ValidBufferSize config.bufferSize then
    match ← system.bind config.listen with
    | .error fault => return .error (.bind config.listen fault)
    | .ok socket => return .ok socket
  else
    return .error (.invalidBufferSize config.bufferSize)

/-- Bind the socket of a client and give it its target. -/
def openClient (config : Client.Config) : m (Except Failure σ) := do
  if ValidBufferSize config.bufferSize then
    match ← system.bind config.bind with
    | .error fault => return .error (.bind config.bind fault)
    | .ok socket =>
      match ← system.connect socket config.target with
      | .error fault => return .error (.connect config.target fault)
      | .ok socket => return .ok socket
  else
    return .error (.invalidBufferSize config.bufferSize)

/-- Send one payload and check what comes back. -/
def exchange (socket : σ) (config : Client.Config) (index : Nat) (payload : Payload) :
    m (Except Client.Halt Client.Exchange) := do
  match ← system.send socket payload with
  | .error fault => return .error (.failure (.transport index .send fault))
  | .ok () =>
    let expectation := config.contract.expectation payload
    let arrival ← system.await socket (config.patience expectation) config.bufferSize
    return (Client.judge config index expectation arrival).map fun received =>
      ⟨index, payload.length, received⟩

/-- Run a script whose first payload has the index `index`. -/
def runFrom (socket : σ) (config : Client.Config) (index : Nat) :
    Script → m (Except Client.Halt Client.Report)
  | [] => return .ok {}
  | payload :: script => do
    match ← system.exchange socket config index payload with
    | .error halt => return .error halt
    | .ok first =>
      let later ← runFrom socket config (index + 1) script
      return later.map (Client.Report.cons first)

/-- Run a server. -/
def runServer (config : Server.Config) : m Ending := do
  match ← system.openServer config with
  | .error failure => return failed failure.parts
  | .ok socket =>
    system.serve config socket
    return .serving ⟨config, system.address socket⟩

/-- Run a client. -/
def runClient (config : Client.Config) : m Ending := do
  match ← system.openClient config with
  | .error failure => return failed failure.parts
  | .ok socket => return ofResult (← system.runFrom socket config 0 config.script)

/-- Run a server or a client. -/
def runMode : Mode → m Ending
  | .server config => system.runServer config
  | .client config => system.runClient config

/-- Run a configuration. -/
def runConfiguration (configuration : Configuration) : m Ending := do
  let log := Log.start (← system.environment) configuration.logLevel
  log.complaints.forM system.warn
  if log.starts then
    system.runMode configuration.mode
  else
    return aborted

/-- The configuration that the arguments give. Only the settings file that they name is read. -/
def load (arguments : CommandLine.Arguments) :
    m (Except Configuration.Problem Configuration) := do
  match arguments.config with
  | some path =>
    let contents ← system.read path
    return Configuration.load (fun _ => contents) arguments
  | none => return Configuration.load (fun _ => .ok "") arguments

/-- Run the program on a command line. -/
def run (words : List String) : m Ending := do
  match CommandLine.Arguments.ofWords words with
  | .error refusal =>
    if refusal.exitCode = 0 then system.print (refusal.text Text.plainStream)
    return refused refusal
  | .ok arguments =>
    match ← system.load arguments with
    | .error problem => return failed problem.parts
    | .ok configuration => system.runConfiguration configuration

end System

/-- What the program changes on a host. -/
structure World where
  /-- The link of a client to its target. -/
  link : Link
  /-- The lines that were written to standard error. -/
  warnings : List String := []

/-- A host as a system. Its sockets are their addresses. `read` gives the texts of its files, and
`environment` is the log filter in its environment, if there is one. -/
def Host.system (host : Host) (read : String → Except Fault String) (environment : Option String) :
    System (StateM World) SocketAddress where
  read path := return read path
  environment := return environment
  print _ := return ()
  warn message := modify fun world => { world with warnings := world.warnings ++ [message] }
  bind address := return host.bind address
  connect socket target := return host.connect socket target
  address socket := socket
  send _ payload := fun world =>
    match world.link.send payload with
    | .error fault => (.error fault, world)
    | .ok link => (.ok (), { world with link })
  await _ patience capacity := fun world =>
    let (arrival, link) := world.link.await patience capacity
    (arrival, { world with link })
  serve _ _ := return ()

end DatagramEcho

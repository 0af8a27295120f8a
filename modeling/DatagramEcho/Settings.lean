import DatagramEcho.Server.Bound
import DatagramEcho.Toml.Value

/-!
# Settings

Settings are what a configuration file says, before anything is checked: addresses are plain texts
and buffer sizes any numbers. What the file leaves out keeps its default.
-/

namespace DatagramEcho.Settings

/-- The address of a server unless another one is set. -/
def defaultListen : String := "0.0.0.0:5002"

/-- The address that a client sends to unless another one is set. -/
def defaultTarget : String := "127.0.0.1:5002"

/-- The address of a client's own socket unless another one is set. -/
def defaultBind : String := "0.0.0.0:0"

/-- How long a client waits for a reply unless another time is set, in milliseconds. -/
def defaultTimeoutMs : Nat := 2000

/-- How long silence has to last unless another time is set, in milliseconds. -/
def defaultSilenceMs : Nat := 200

/-- The log level unless another one is set. -/
def defaultLevel : String := "info"

/-- The settings of a server. -/
structure Server where
  /-- The address to receive on. -/
  listen : String := defaultListen
  /-- The capacity of the receive buffer. -/
  bufferSize : Nat := defaultBufferSize
  /-- The treatment of empty datagrams. -/
  emptyPolicy : EmptyPolicy := .drop
  /-- The transform applied to replies. -/
  transform : Transform := .identity
  /-- The event loop. -/
  eventLoop : EventLoop := .readiness
  deriving Repr, DecidableEq

/-- The settings of a client. -/
structure Client where
  /-- The address to send to. -/
  target : String := defaultTarget
  /-- The address of the client's own socket. -/
  bind : String := defaultBind
  /-- The capacity of the receive buffer. -/
  bufferSize : Nat := defaultBufferSize
  /-- How long to wait for a reply, in milliseconds; zero waits forever. -/
  timeoutMs : Nat := defaultTimeoutMs
  /-- How long silence has to last, in milliseconds. -/
  silenceMs : Nat := defaultSilenceMs
  /-- The treatment of empty datagrams that the server is expected to apply. -/
  emptyPolicy : EmptyPolicy := .drop
  /-- The transform that the server is expected to apply. -/
  transform : Transform := .identity
  /-- The payloads to send in place of the standard script. -/
  payloads : List String := []
  deriving Repr, DecidableEq

/-- The settings of the log. -/
structure Logging where
  /-- The level from which on messages are written. -/
  level : String := defaultLevel
  deriving Repr, DecidableEq

end DatagramEcho.Settings

namespace DatagramEcho

/-- All settings of a configuration file. -/
structure Settings where
  /-- The section on the server. -/
  server : Settings.Server := {}
  /-- The section on the client. -/
  client : Settings.Client := {}
  /-- The section on the log. -/
  logging : Settings.Logging := {}
  deriving Repr, DecidableEq

end DatagramEcho

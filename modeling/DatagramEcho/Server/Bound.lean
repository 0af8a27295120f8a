import DatagramEcho.Failure
import DatagramEcho.Network.Host
import DatagramEcho.Server.Responder

/-!
# Bound servers

A server is made from its configuration by binding a socket. The size of the receive buffer is
checked first, so that a bound server always has room for at least one byte.
-/

namespace DatagramEcho

/-- The event loop that drives a server. All of them serve in the same way. -/
inductive EventLoop where
  /-- A loop that waits for readiness and then drains the socket. -/
  | readiness
  /-- A task that waits for the next datagram or for the shutdown, whichever comes first. -/
  | selecting
  deriving Repr, DecidableEq, Inhabited

instance : Choice EventLoop where
  values := [.readiness, .selecting]
  name
    | .readiness => "mio"
    | .selecting => "tokio"

namespace Server

/-- What a server is told to do. -/
structure Config where
  /-- The address to receive on. -/
  listen : SocketAddress
  /-- The capacity of the receive buffer. -/
  bufferSize : Nat := defaultBufferSize
  /-- What to send back. -/
  contract : Contract := {}
  /-- The event loop to run. -/
  eventLoop : EventLoop := .readiness
  deriving Repr, DecidableEq

/-- What a server does unless it is told otherwise. -/
def Config.standard : Config where
  listen := .v4 .unspecified 5002

/-- A server that owns a bound socket. -/
structure Bound where
  /-- What it was told to do. -/
  config : Config
  /-- The address of its socket. -/
  address : SocketAddress
  deriving Repr, DecidableEq

/-- Bind the socket of a server. -/
def bind (host : Host) (config : Config) : Except Failure Bound :=
  if ValidBufferSize config.bufferSize then
    match host.bind config.listen with
    | .ok address => .ok ⟨config, address⟩
    | .error fault => .error (.bind config.listen fault)
  else
    .error (.invalidBufferSize config.bufferSize)

/-- The socket and responder of a server that has served nothing yet. -/
def Config.endpoint (config : Config) : Endpoint :=
  ⟨config.bufferSize, { contract := config.contract }⟩

/-- How the means of stopping a server shows itself. Its workings stay hidden. -/
def shutdownHandleText : String := "ShutdownHandle \x7b .. \x7d"

end Server

end DatagramEcho

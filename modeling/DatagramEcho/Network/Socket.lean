import DatagramEcho.Network.Address
import DatagramEcho.Network.Fault
import DatagramEcho.Network.Link
import DatagramEcho.TimeSpan
import Std.Async.Timer
import Std.Async.UDP

/-!
# Sockets

Datagram sockets of the operating system. This module only carries datagrams: what is sent and what
an arrival means is decided elsewhere. An error of the system comes back as a `Fault`.
-/

namespace DatagramEcho

/-- The fault that an error of the system stands for. -/
def Fault.ofError : IO.Error → Fault
  | .alreadyExists _ code _ | .invalidArgument _ code _ | .permissionDenied _ code _
  | .resourceExhausted _ code _ | .inappropriateType _ code _ | .noSuchThing _ code _ =>
    .os code.toNat
  | .interrupted _ code _ | .noFileOrDirectory _ code _ => .os code.toNat
  | .otherError code _ | .resourceBusy code _ | .resourceVanished code _
  | .unsupportedOperation code _ | .hardwareFault code _ | .unsatisfiedConstraints code _
  | .illegalOperation code _ | .protocolError code _ | .timeExpired code _ => .os code.toNat
  | .unexpectedEof => .bare .unexpectedEof
  | .userError text => .described .other text

/-- The outcome of an action, with an error of the system as a fault. -/
def Fault.attempt {α : Type} (action : IO α) : IO (Except Fault α) := do
  match ← action.toBaseIO with
  | .ok value => return .ok value
  | .error error => return .error (Fault.ofError error)

/-- The address in the form that the system takes. It has no place for a scope. -/
def SocketAddress.toNet : SocketAddress → Std.Net.SocketAddress
  | .v4 ip port => .v4 ⟨.ofParts ip.a ip.b ip.c ip.d, port⟩
  | .v6 ip _ port => .v6 ⟨⟨ip.groups⟩, port⟩

/-- The bytes of a payload in the form that the system takes. -/
def Payload.toBytes (payload : Payload) : ByteArray :=
  ⟨payload.toArray⟩

/-- A datagram socket. -/
structure Socket where
  /-- The socket of the system. -/
  socket : Std.Async.UDP.Socket
  /-- The address that it was to be bound to. -/
  address : SocketAddress

namespace Socket

/-- A socket bound to an address. -/
def bind (address : SocketAddress) : IO (Except Fault Socket) :=
  Fault.attempt do
    let socket ← Std.Async.UDP.Socket.mk
    socket.bind address.toNet
    return ⟨socket, address⟩

/-- Give a socket its destination. -/
def connect (socket : Socket) (target : SocketAddress) : IO (Except Fault Socket) :=
  Fault.attempt do
    socket.socket.connect target.toNet
    return socket

/-- Send a datagram to `peer`, or to the destination of the socket. -/
def send (socket : Socket) (payload : Payload) (peer : Option Std.Net.SocketAddress := none) :
    IO (Except Fault Unit) :=
  Fault.attempt (socket.socket.send payload.toBytes peer).block

/-- The next datagram, cut to `capacity` bytes, with its sender. -/
def receive (socket : Socket) (capacity : Nat) :
    IO (Except Fault (Payload × Option Std.Net.SocketAddress)) :=
  Fault.attempt do
    let (bytes, peer) ← (socket.socket.recv capacity.toUInt64).block
    return (bytes.toList, peer)

/-- Whether a fault only says that nothing came in time. -/
def isExpiry (fault : Fault) : Bool :=
  fault.wouldBlock || fault.kind == .timedOut

/-- Wait at most `patience` for the next datagram, or forever. -/
def await (socket : Socket) (capacity : Nat) (patience : Option TimeSpan) : IO Arrival := do
  if patience = some .zero then return .failed .zeroTimeout
  let outcome ← Fault.attempt <| Std.Async.Async.block do
    let datagram : Std.Async.Selectable Arrival :=
      .case (socket.socket.recvSelector capacity.toUInt64) fun (bytes, _) =>
        return .datagram bytes.toList
    match patience with
    | none => Std.Async.Selectable.one #[datagram]
    | some span =>
      let timer ← Std.Async.Selector.sleep (.ofNat span.milliseconds)
      Std.Async.Selectable.one #[datagram, .case timer fun () => return .expired]
  match outcome with
  | .ok arrival => return arrival
  | .error fault => return if isExpiry fault then .expired else .failed fault

end Socket

end DatagramEcho

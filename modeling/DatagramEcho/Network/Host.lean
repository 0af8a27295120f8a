import DatagramEcho.Network.Address
import DatagramEcho.Network.Fault

/-!
# Hosts

A host decides which addresses its sockets can be bound to and which destinations they can be
given. Nothing else of it is visible: `Host.bind` and `Host.connect` succeed or give the operating
system's fault.

* `Host.isolated` has no interface up. IPv4 sockets may be bound to any address. Only the address
  that stands for the host itself can be a destination, and what is sent there is lost.
* `Host.connected` has the same addresses and reaches every destination.
-/

namespace DatagramEcho

/-- A host as its sockets see it. -/
structure Host where
  /-- The IPv4 addresses that a socket may be bound to. -/
  ownsIpv4 : Ipv4 → Bool
  /-- The IPv6 addresses that a socket may be bound to. -/
  ownsIpv6 : Ipv6 → Bool
  /-- Numbers of the interfaces. -/
  interfaces : List Nat
  /-- Whether packets leave the host. -/
  hasRoutes : Bool

namespace Host

/-- IPv4 sockets may be bound to any address, and IPv6 sockets to the unspecified address, to a
group, and to an IPv4 address in IPv6 form. -/
def isolated : Host where
  ownsIpv4 _ := true
  ownsIpv6 ip := ip == Ipv6.unspecified || ip.isMulticast || ip.mappedIpv4?.isSome
  interfaces := [1]
  hasRoutes := false

/-- The addresses of `isolated`, with a route to every destination. -/
def connected : Host :=
  { isolated with hasRoutes := true }

/-- Whether only a privileged process may bind a socket to a port. -/
def isReserved (port : UInt16) : Bool :=
  port != 0 && port < 1024

/-- Why a socket cannot be bound to `address`, if it cannot. An address that is local to a link has
to name an interface by its scope. -/
def bindFault? (host : Host) : SocketAddress → Option Fault
  | .v4 ip port =>
    if !host.ownsIpv4 ip then some .addressNotAvailable
    else if isReserved port then some .permissionDenied
    else none
  | .v6 ip scope port =>
    if isReserved port then some .permissionDenied
    else if ip.needsScope && scope == 0 then some .invalidArgument
    else if ip.needsScope && !host.interfaces.contains scope.toNat then some .noSuchDevice
    else if host.ownsIpv6 ip then none
    else some .addressNotAvailable

/-- Whether a host finds a way from a socket bound to `source` to `destination`. Without routes it
still finds one from a socket that is free to choose its IPv4 address to the host itself. -/
def reaches (host : Host) (source destination : SocketAddress) : Bool :=
  let isFree := match source with
    | .v4 _ _ => true
    | .v6 _ _ _ => source.isUnspecified
  host.hasRoutes || (isFree && destination.ipv4? == some Ipv4.unspecified)

/-- Why a socket bound to `source` cannot be given `destination`, if it cannot. An IPv4 socket has
no way to an IPv6 address, and a destination that is local to a link has to name an interface. -/
def connectFault? (host : Host) (source destination : SocketAddress) : Option Fault :=
  match source, destination with
  | .v4 _ _, .v6 _ _ _ => some .addressFamily
  | _, .v6 ip scope _ =>
    if ip.needsScope && scope == 0 then some .invalidArgument
    else if host.reaches source destination then none
    else some .networkUnreachable
  | _, .v4 _ _ => if host.reaches source destination then none else some .networkUnreachable

/-- The port that a host assigns when any free one is asked for. -/
def freePort : UInt16 := 49152

/-- Bind a socket. The result is the address bound, with a port of its own. -/
def bind (host : Host) (address : SocketAddress) : Except Fault SocketAddress :=
  match host.bindFault? address with
  | some fault => .error fault
  | none => .ok (if address.port = 0 then address.withPort freePort else address)

/-- Give a bound socket its destination. The result is the address of the socket after that. -/
def connect (host : Host) (source destination : SocketAddress) : Except Fault SocketAddress :=
  match host.connectFault? source destination with
  | some fault => .error fault
  | none => .ok (source.facing destination)

end Host

end DatagramEcho

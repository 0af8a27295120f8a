import DatagramEcho.Network.Host
import DatagramEcho.Server.Responder
import DatagramEcho.TimeSpan

/-!
# Links

A link joins a client's socket to the peer at its target address. It loses nothing and keeps the
order. A send longer than the transport can carry fails; a receive keeps as many bytes as the
buffer has room for; a wait takes the next datagram in the queue, or expires. A socket refuses to
wait for no time at all.
-/

namespace DatagramEcho

/-- Who is at the target address of a client. -/
inductive Peer where
  /-- A server. -/
  | serving (endpoint : Endpoint)
  /-- A peer that answers each datagram it gets with the next list of datagrams, and with none when
  the lists are used up. -/
  | scripted (answers : List (List Payload))
  /-- Nobody. The host refuses what is sent there. -/
  | absent
  deriving Repr, DecidableEq

namespace Peer

/-- What a peer sends back for one datagram, and the peer after it. -/
def answer : Peer → Payload → List Payload × Peer
  | serving endpoint, datagram =>
    let (reply, endpoint) := endpoint.serve datagram
    (reply.toList, serving endpoint)
  | scripted (answers :: later), _ =>
    (answers.filter (·.length ≤ maxPayloadSize), scripted later)
  | scripted [], _ => ([], scripted [])
  | absent, _ => ([], absent)

/-- The counters of a peer that is a server. -/
def counters? : Peer → Option Counters
  | serving endpoint => some endpoint.counters
  | _ => none

end Peer

/-- What ends a wait for a datagram. -/
inductive Arrival where
  /-- A datagram, cut to the buffer. -/
  | datagram (payload : Payload)
  /-- The time to wait has passed. -/
  | expired
  /-- The transport failed. -/
  | failed (fault : Fault)
  deriving Repr, DecidableEq

/-- A client's socket and what lies beyond it. -/
structure Link where
  /-- Who is at the other end. -/
  peer : Peer
  /-- Datagrams on their way to the client, oldest first. -/
  queue : List Payload := []
  /-- Datagrams that the peer got, oldest first. -/
  requests : List Payload := []
  deriving Repr, DecidableEq

/-- The link from a client on a host to the peer at its target. Where nothing leaves the host, the
peer gets nothing and nobody answers. -/
def Host.linkTo (host : Host) (peer : Peer) : Link :=
  { peer := if host.hasRoutes then peer else .scripted [] }

namespace Link

/-- Send one datagram to the peer. -/
def send (link : Link) (datagram : Payload) : Except Fault Link :=
  if datagram.length ≤ maxPayloadSize then
    let (answers, peer) := link.peer.answer datagram
    .ok { peer, queue := link.queue ++ answers, requests := link.requests ++ [datagram] }
  else
    .error .messageTooLong

/-- Receive the next datagram with room for `capacity` bytes. -/
def receive (link : Link) (capacity : Nat) : Arrival × Link :=
  match link.peer, link.queue with
  | .absent, _ => (.failed .connectionRefused, link)
  | _, datagram :: later => (.datagram (datagram.take capacity), { link with queue := later })
  | _, [] => (.expired, link)

/-- Wait at most `patience`, or forever, for the next datagram with room for `capacity` bytes. -/
def await (link : Link) (patience : Option TimeSpan) (capacity : Nat) : Arrival × Link :=
  if patience = some .zero then (.failed .zeroTimeout, link) else link.receive capacity

end Link

end DatagramEcho

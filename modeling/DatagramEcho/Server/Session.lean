import DatagramEcho.Server.Bound

/-!
# Server sessions

In a session any number of senders send datagrams to one server, in some order, and each of them
looks for one reply after each send. The network loses nothing and keeps the order; replies wait in
flight until their sender looks for them.
-/

namespace DatagramEcho.Server

/-- One datagram of a session. -/
structure Send where
  /-- Which of the senders sends it. -/
  sender : Nat
  /-- What it carries. -/
  payload : Payload
  deriving Repr, DecidableEq

/-- A session in progress. -/
structure Session where
  /-- The server. -/
  endpoint : Endpoint
  /-- Replies that nobody has looked for yet, each with the sender it goes to, oldest first. -/
  inFlight : List (Nat × Payload) := []
  deriving Repr, DecidableEq

namespace Session

/-- A datagram is sent and served. One that is too long for the transport never leaves. -/
def deliver (session : Session) (send : Send) : Session :=
  if send.payload.length ≤ maxPayloadSize then
    let (reply, endpoint) := session.endpoint.serve send.payload
    { endpoint
      inFlight := session.inFlight ++ (reply.toList.map fun reply => (send.sender, reply)) }
  else session

/-- A sender takes its oldest reply, if one is in flight. -/
def collect (session : Session) (sender : Nat) : Option Payload × Session :=
  match session.inFlight.find? (·.1 == sender) with
  | some (_, reply) =>
    (some reply, { session with inFlight := session.inFlight.eraseP (·.1 == sender) })
  | none => (none, session)

/-- Each send in turn, followed by a look for one reply: what was found, and the session at the
end. -/
def run (session : Session) : List Send → List (Option Payload) × Session
  | [] => ([], session)
  | send :: sends =>
    let (reply, next) := (session.deliver send).collect send.sender
    let (replies, last) := next.run sends
    (reply :: replies, last)

end Session

/-- The replies found in a whole session with a fresh server, and its counters after it. -/
def Config.session (config : Config) (sends : List Send) : List (Option Payload) × Counters :=
  let (replies, last) := Session.run { endpoint := config.endpoint } sends
  (replies, last.endpoint.counters)

/-- The replies found in a session on a host, and the counters after it. Where nothing leaves the
host, the server gets nothing. -/
def Config.sessionOn (host : Host) (config : Config) (sends : List Send) :
    List (Option Payload) × Counters :=
  if host.hasRoutes then config.session sends
  else (sends.map fun _ => none, config.endpoint.counters)

end DatagramEcho.Server

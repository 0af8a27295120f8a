import DatagramEcho.Server.Responder

/-!
# Service at a socket

What an event loop sees of the world is a queue of datagrams, in the order of their arrival, and a
shutdown request. It handles one datagram at a time in four steps: it takes the datagram from the
queue, counts it, sends the reply, and counts the reply. Between any two of these steps more
datagrams may arrive and the shutdown may be requested. Every send succeeds in the end.

* `Service.Outside` are the steps of the surroundings, `Service.Handle` those of the handling. They
  are the same for every event loop.
-/

namespace DatagramEcho.Server

/-- A datagram with its sender. -/
structure Parcel where
  /-- Who sent it, and gets the reply. -/
  sender : Nat
  /-- What it carries. -/
  payload : Payload
  deriving Repr, DecidableEq

/-- A datagram as a buffer cuts it. -/
def Parcel.cut (capacity : Nat) (parcel : Parcel) : Parcel :=
  { parcel with payload := parcel.payload.take capacity }

/-- How far the handling of a datagram has come. -/
inductive Handling where
  /-- No datagram is being handled. -/
  | free
  /-- A datagram, already cut to the buffer, was taken from the queue. -/
  | taken (parcel : Parcel)
  /-- The datagram was counted, and its reply is due. -/
  | replying (reply : Parcel)
  /-- A reply of this length was sent. -/
  | sent (length : Nat)
  deriving Repr, DecidableEq

/-- A socket, the responder behind it, and all that happened there. -/
structure Service where
  /-- The capacity of the receive buffer. -/
  capacity : Nat
  /-- What answers. -/
  responder : Responder
  /-- The datagram in handling. -/
  handling : Handling := .free
  /-- Datagrams that wait, oldest first. -/
  queue : List Parcel := []
  /-- All datagrams that have arrived, oldest first. -/
  arrived : List Parcel := []
  /-- Datagrams that were taken, oldest first, as they arrived. -/
  taken : List Parcel := []
  /-- Replies that were sent, oldest first. -/
  replies : List Parcel := []
  /-- Whether the shutdown was requested. -/
  stopRequested : Bool := false
  deriving Repr, DecidableEq

namespace Service

/-- A service whose loop has not started. Datagrams may be waiting already, and the shutdown may
have been requested. -/
def start (capacity : Nat) (responder : Responder) (waiting : List Parcel)
    (stopRequested : Bool) : Service :=
  { capacity, responder, queue := waiting, arrived := waiting, stopRequested }

/-- A datagram arrives. -/
def arrive (service : Service) (parcel : Parcel) : Service :=
  { service with
    queue := service.queue ++ [parcel]
    arrived := service.arrived ++ [parcel] }

/-- The shutdown is requested. -/
def requestStop (service : Service) : Service :=
  { service with stopRequested := true }

/-- The oldest datagram is taken, cut to the buffer. -/
def take (service : Service) (parcel : Parcel) (later : List Parcel) : Service :=
  { service with
    queue := later
    taken := service.taken ++ [parcel]
    handling := .taken (parcel.cut service.capacity) }

/-- The datagram in handling is counted. -/
def count (service : Service) (parcel : Parcel) : Service :=
  let (reply, responder) := service.responder.receive parcel.payload
  match reply with
  | some reply => { service with responder, handling := .replying ⟨parcel.sender, reply⟩ }
  | none => { service with responder, handling := .free }

/-- A due reply is sent. -/
def send (service : Service) (reply : Parcel) : Service :=
  { service with
    replies := service.replies ++ [reply]
    handling := .sent reply.payload.length }

/-- A reply that was sent is counted. -/
def book (service : Service) (length : Nat) : Service :=
  { service with responder := service.responder.sent length, handling := .free }

/-- What the surroundings do. -/
inductive Outside : Service → Service → Prop where
  /-- A datagram arrives. -/
  | arrive (service : Service) (parcel : Parcel) : Outside service (service.arrive parcel)
  /-- The shutdown is requested. -/
  | requestStop (service : Service) : Outside service service.requestStop

/-- The handling of a datagram that was taken. No send fails. -/
inductive Handle : Service → Service → Prop where
  /-- The datagram is counted. -/
  | count {service : Service} {parcel : Parcel} (h : service.handling = .taken parcel) :
    Handle service (service.count parcel)
  /-- The reply is sent to the datagram's sender. -/
  | send {service : Service} {reply : Parcel} (h : service.handling = .replying reply) :
    Handle service (service.send reply)
  /-- The reply is counted. -/
  | book {service : Service} {length : Nat} (h : service.handling = .sent length) :
    Handle service (service.book length)

end Service

end DatagramEcho.Server

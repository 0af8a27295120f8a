import DatagramEcho.Server.Loop.Service

/-!
# The readiness loop

The loop asks the system for a batch of events and works through it. An event at the socket makes it
drain the socket: datagrams are handled until none is left in the queue. A wake-up ends the loop if
the shutdown was requested. The events of a batch come in any order and may be out of date, so that
a queue may be empty that was reported, and a wake-up may come without a request.

A reply may find no room in the socket. Then it is parked, and the loop reads nothing more until the
socket is writable and the reply is out.
-/

namespace DatagramEcho.Server

/-- What the system reports. -/
inductive Readiness where
  /-- Something has changed at the socket, which may have become writable. -/
  | socket (writable : Bool)
  /-- The loop was woken up. -/
  | woken
  deriving Repr, DecidableEq

namespace ReadinessLoop

/-- Where the loop is. -/
inductive Control where
  /-- It waits for the next batch. -/
  | polling
  /-- It works through the rest of a batch. -/
  | batch (events : List Readiness)
  /-- It drains the socket, with the rest of a batch to follow. -/
  | draining (events : List Readiness)
  /-- It has returned. -/
  | stopped
  deriving Repr, DecidableEq

/-- The loop and the service it drives. Outside of the draining, a due reply is a parked one. -/
structure State where
  /-- Where the loop is. -/
  control : Control := .polling
  /-- The service. -/
  service : Service
  deriving Repr, DecidableEq

/-- One step of the loop or its surroundings. Sends block only if `mayBlock` is set. -/
inductive Step (mayBlock : Bool) : State → State → Prop where
  /-- The surroundings do something. -/
  | outside {control : Control} {service next : Service} (h : service.Outside next) :
    Step mayBlock ⟨control, service⟩ ⟨control, next⟩
  /-- The system reports a batch of events. -/
  | poll {service : Service} (events : List Readiness) :
    Step mayBlock ⟨.polling, service⟩ ⟨.batch events, service⟩
  /-- The batch is done. -/
  | wait {service : Service} : Step mayBlock ⟨.batch [], service⟩ ⟨.polling, service⟩
  /-- A wake-up ends the loop if the shutdown was requested. -/
  | stop {service : Service} {events : List Readiness} (h : service.stopRequested = true) :
    Step mayBlock ⟨.batch (.woken :: events), service⟩ ⟨.stopped, service⟩
  /-- Any other wake-up is passed over. -/
  | ignore {service : Service} {events : List Readiness} (h : service.stopRequested = false) :
    Step mayBlock ⟨.batch (.woken :: events), service⟩ ⟨.batch events, service⟩
  /-- The socket is drained. If a reply is parked, the socket has to be writable, and the reply is
  sent first. -/
  | drain {service : Service} {writable : Bool} {events : List Readiness}
      (h : service.handling = .free ∨ writable = true) :
    Step mayBlock ⟨.batch (.socket writable :: events), service⟩ ⟨.draining events, service⟩
  /-- Nothing is read while a reply is parked. -/
  | hold {service : Service} {events : List Readiness} (h : service.handling ≠ .free) :
    Step mayBlock ⟨.batch (.socket false :: events), service⟩ ⟨.batch events, service⟩
  /-- The next datagram is taken. -/
  | take {service : Service} {events : List Readiness} {parcel : Parcel} {later : List Parcel}
      (free : service.handling = .free) (h : service.queue = parcel :: later) :
    Step mayBlock ⟨.draining events, service⟩ ⟨.draining events, service.take parcel later⟩
  /-- The datagram taken is handled. -/
  | handle {service next : Service} {events : List Readiness} (h : service.Handle next) :
    Step mayBlock ⟨.draining events, service⟩ ⟨.draining events, next⟩
  /-- A due reply is parked. -/
  | park {service : Service} {events : List Readiness} {reply : Parcel}
      (blocks : mayBlock = true) (h : service.handling = .replying reply) :
    Step mayBlock ⟨.draining events, service⟩ ⟨.batch events, service⟩
  /-- The queue is empty. -/
  | drained {service : Service} {events : List Readiness}
      (free : service.handling = .free) (h : service.queue = []) :
    Step mayBlock ⟨.draining events, service⟩ ⟨.batch events, service⟩

/-- The states of a loop that starts to serve with `responder`, with datagrams waiting or a
shutdown requested already. -/
inductive Reachable (mayBlock : Bool) (capacity : Nat) (responder : Responder) : State → Prop where
  /-- The loop has not started. -/
  | start (waiting : List Parcel) (stopRequested : Bool) :
    Reachable mayBlock capacity responder
      ⟨.polling, .start capacity responder waiting stopRequested⟩
  /-- One more step. -/
  | step {state next : State} (reachable : Reachable mayBlock capacity responder state)
      (h : Step mayBlock state next) : Reachable mayBlock capacity responder next

end ReadinessLoop

end DatagramEcho.Server

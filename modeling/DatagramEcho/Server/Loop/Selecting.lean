import DatagramEcho.Server.Loop.Service

/-!
# The selecting loop

The loop waits for the next datagram and for the shutdown at the same time. When both are ready
either may be chosen. A datagram is handled to its end before the loop waits again, also where a
reply has to wait for room in the socket.
-/

namespace DatagramEcho.Server.SelectingLoop

/-- Where the loop is. -/
inductive Control where
  /-- It waits for a datagram or the shutdown. -/
  | selecting
  /-- It handles the datagram it took. -/
  | handling
  /-- It has returned. -/
  | stopped
  deriving Repr, DecidableEq

/-- The loop and the service it drives. -/
structure State where
  /-- Where the loop is. -/
  control : Control := .selecting
  /-- The service. -/
  service : Service
  deriving Repr, DecidableEq

/-- One step of the loop or its surroundings. -/
inductive Step : State → State → Prop where
  /-- The surroundings do something. -/
  | outside {control : Control} {service next : Service} (h : service.Outside next) :
    Step ⟨control, service⟩ ⟨control, next⟩
  /-- The shutdown is chosen. -/
  | stop {service : Service} (h : service.stopRequested = true) :
    Step ⟨.selecting, service⟩ ⟨.stopped, service⟩
  /-- The next datagram is chosen. -/
  | take {service : Service} {parcel : Parcel} {later : List Parcel}
      (h : service.queue = parcel :: later) :
    Step ⟨.selecting, service⟩ ⟨.handling, service.take parcel later⟩
  /-- The datagram taken is handled. -/
  | handle {service next : Service} (h : service.Handle next) :
    Step ⟨.handling, service⟩ ⟨.handling, next⟩
  /-- The datagram is handled to its end. -/
  | wait {service : Service} (free : service.handling = .free) :
    Step ⟨.handling, service⟩ ⟨.selecting, service⟩

/-- The states of a loop that starts to serve with `responder`, with datagrams waiting or a
shutdown requested already. -/
inductive Reachable (capacity : Nat) (responder : Responder) : State → Prop where
  /-- The loop has not started. -/
  | start (waiting : List Parcel) (stopRequested : Bool) :
    Reachable capacity responder ⟨.selecting, .start capacity responder waiting stopRequested⟩
  /-- One more step. -/
  | step {state next : State} (reachable : Reachable capacity responder state)
      (h : Step state next) : Reachable capacity responder next

end DatagramEcho.Server.SelectingLoop

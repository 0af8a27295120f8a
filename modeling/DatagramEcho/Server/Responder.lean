import DatagramEcho.Contract
import DatagramEcho.Network.Fault
import DatagramEcho.Server.Counters

/-!
# The responder

The responder is the part of a server that is the same for every event loop. It answers one
datagram at a time and keeps the counters; nothing else survives from one datagram to the next. An
event loop tells it what happened, one `Event` after another.

* `Responder.receive` accounts for a datagram and gives its reply.
* `Responder.handle` is the effect of one event, `Responder.handleAll` that of a list of events.
* `Endpoint.serve` is a whole exchange at a socket whose sends succeed.
-/

namespace DatagramEcho

/-- What an event loop reports. -/
inductive Responder.Event where
  /-- A datagram was received. -/
  | received (payload : Payload)
  /-- A reply of `length` bytes was sent. -/
  | sent (length : Nat)
  /-- A receive failed. -/
  | receiveFailed (fault : Fault)
  /-- A reply could not be sent. -/
  | sendFailed (fault : Fault)
  deriving Repr, DecidableEq

/-- Answers datagrams under a contract and counts them. -/
structure Responder where
  /-- What is sent back. -/
  contract : Contract
  /-- What has been done so far. -/
  counters : Counters := {}
  deriving Repr, DecidableEq

namespace Responder

/-- Account for a received datagram. The reply is due to its sender. -/
def receive (responder : Responder) (payload : Payload) : Option Payload × Responder :=
  let counters := { responder.counters with received := responder.counters.received + 1 }
  match responder.contract.reply? payload with
  | some reply => (some reply, { responder with counters })
  | none =>
    (none, { responder with
      counters := { counters with droppedEmpty := counters.droppedEmpty + 1 } })

/-- Account for a reply that was sent. -/
def sent (responder : Responder) (length : Nat) : Responder :=
  let counters := responder.counters
  { responder with
    counters := { counters with
      echoed := counters.echoed + 1
      bytesEchoed := counters.bytesEchoed + length } }

/-- Account for a receive that failed. -/
def receiveFailed (responder : Responder) : Responder :=
  let counters := responder.counters
  { responder with counters := { counters with receiveErrors := counters.receiveErrors + 1 } }

/-- Account for a reply that could not be sent. -/
def sendFailed (responder : Responder) : Responder :=
  let counters := responder.counters
  { responder with counters := { counters with sendErrors := counters.sendErrors + 1 } }

/-- The effect of one event, with the reply that is due after it. -/
def handle (responder : Responder) : Event → Option Payload × Responder
  | .received payload => responder.receive payload
  | .sent length => (none, responder.sent length)
  | .receiveFailed _ => (none, responder.receiveFailed)
  | .sendFailed _ => (none, responder.sendFailed)

/-- The replies due after each of `events`, and the responder after all of them. -/
def handleAll (responder : Responder) : List Event → List (Option Payload) × Responder
  | [] => ([], responder)
  | event :: events =>
    let (reply, next) := responder.handle event
    let (replies, last) := next.handleAll events
    (reply :: replies, last)

/-- Each reply with the counters after the event that led to it. -/
def history (responder : Responder) : List Event → List (Option Payload × Counters)
  | [] => []
  | event :: events =>
    let (reply, next) := responder.handle event
    (reply, next.counters) :: next.history events

@[simp]
theorem contract_receive (responder : Responder) (payload : Payload) :
    (responder.receive payload).2.contract = responder.contract := by
  unfold receive
  split <;> rfl

/-- The contract never changes. -/
@[simp]
theorem contract_handle (responder : Responder) (event : Event) :
    (responder.handle event).2.contract = responder.contract := by
  cases event <;> simp [handle, sent, receiveFailed, sendFailed]

/-- The reply to a datagram does not depend on what happened before. -/
@[simp]
theorem reply_receive (responder : Responder) (payload : Payload) :
    (responder.receive payload).1 = responder.contract.reply? payload := by
  unfold receive
  split <;> simp_all

end Responder

/-- A responder behind a socket with a receive buffer. -/
structure Endpoint where
  /-- The capacity of the buffer. A longer datagram loses its end. -/
  capacity : Nat
  /-- What answers. -/
  responder : Responder
  deriving Repr, DecidableEq

namespace Endpoint

/-- One exchange at a socket that sends every reply: the datagram is cut to the buffer, answered,
and the reply, if any, is sent and counted. -/
def serve (endpoint : Endpoint) (datagram : Payload) : Option Payload × Endpoint :=
  let (reply, responder) := endpoint.responder.receive (datagram.take endpoint.capacity)
  match reply with
  | some reply => (some reply, { endpoint with responder := responder.sent reply.length })
  | none => (none, { endpoint with responder })

/-- The counters of the responder. -/
def counters (endpoint : Endpoint) : Counters :=
  endpoint.responder.counters

end Endpoint

end DatagramEcho

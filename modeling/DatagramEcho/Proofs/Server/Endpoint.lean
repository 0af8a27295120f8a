import DatagramEcho.Server.Bound
import Mathlib.Data.Nat.Notation

/-!
# A server's socket

What one exchange at the socket of a server gives and keeps. The reply is the contract's reply to
the datagram as the buffer cut it, and neither the buffer nor the contract changes.
-/

namespace DatagramEcho

namespace Responder

variable {responder : Responder} {payload reply : Payload}

/-- A datagram with a reply is counted as received. -/
theorem receive_of_some (hreply : responder.contract.reply? payload = some reply) :
    responder.receive payload =
      (some reply, { responder with
        counters := { responder.counters with received := responder.counters.received + 1 } }) := by
  simp only [receive, hreply]

/-- A datagram without a reply is counted as received and as dropped. -/
theorem receive_of_none (hreply : responder.contract.reply? payload = none) :
    responder.receive payload =
      (none, { responder with
        counters := { responder.counters with
          received := responder.counters.received + 1
          droppedEmpty := responder.counters.droppedEmpty + 1 } }) := by
  simp only [receive, hreply]

end Responder

namespace Endpoint

variable (endpoint : Endpoint) (datagram : Payload)

/-- The reply is due to the datagram as it was cut to the buffer. -/
@[simp]
theorem fst_serve :
    (endpoint.serve datagram).1 =
      endpoint.responder.contract.reply? (datagram.take endpoint.capacity) := by
  cases h : endpoint.responder.contract.reply? (datagram.take endpoint.capacity) <;>
    simp [serve, h]

/-- The buffer keeps its size. -/
@[simp]
theorem capacity_serve : (endpoint.serve datagram).2.capacity = endpoint.capacity := by
  cases h : endpoint.responder.contract.reply? (datagram.take endpoint.capacity) <;>
    simp [serve, h]

/-- The contract stays the same. -/
@[simp]
theorem contract_serve :
    (endpoint.serve datagram).2.responder.contract = endpoint.responder.contract := by
  cases h : endpoint.responder.contract.reply? (datagram.take endpoint.capacity) <;>
    simp [serve, h, Responder.sent]

end Endpoint

end DatagramEcho

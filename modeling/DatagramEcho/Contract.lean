import DatagramEcho.Choice
import DatagramEcho.Payload

/-!
# The echo contract

There is no framing: a request is one datagram and its reply is one datagram. A `Contract` says
what a server sends back for a payload, and so what a client may expect. A receive reads at most
the capacity of its buffer. Payloads up to that capacity have to come back byte for byte; of a
longer one only an initial segment, no longer than the capacity, is promised.

* `Contract.reply?` is the server's answer to one payload.
* `Contract.expectation` is what a client waits for after sending one.
* `checkReply` decides whether a received payload keeps the contract.
-/

namespace DatagramEcho

/-- What becomes of an empty datagram. -/
inductive EmptyPolicy where
  /-- It gets no reply. -/
  | drop
  /-- It is answered by an empty datagram. -/
  | echo
  deriving Repr, DecidableEq, Inhabited

instance : Choice EmptyPolicy where
  values := [.drop, .echo]
  name
    | .drop => "drop"
    | .echo => "echo"

/-- The transform that a server applies to the bytes it sends back. -/
inductive Transform where
  /-- The reply repeats the request. -/
  | identity
  /-- Every byte of the reply is the complement of the request's byte. -/
  | invert
  deriving Repr, DecidableEq, Inhabited

instance : Choice Transform where
  values := [.identity, .invert]
  name
    | .identity => "identity"
    | .invert => "invert"

/-- The reply bytes for a payload. -/
def Transform.apply : Transform → Payload → Payload
  | .identity, payload => payload
  | .invert, payload => payload.complement

@[simp]
theorem Transform.apply_nil (transform : Transform) : transform.apply [] = [] := by
  cases transform <;> rfl

@[simp]
theorem Transform.length_apply (transform : Transform) (payload : Payload) :
    (transform.apply payload).length = payload.length := by
  cases transform <;> simp [Transform.apply]

/-- What a server and its clients agree on. -/
structure Contract where
  /-- The treatment of empty datagrams. -/
  emptyPolicy : EmptyPolicy := .drop
  /-- The transform applied to every reply. -/
  transform : Transform := .identity
  deriving Repr, DecidableEq, Inhabited

/-- What a client waits for after sending a payload. -/
inductive Expectation where
  /-- A reply with these bytes, subject to truncation. -/
  | reply (expected : Payload)
  /-- No reply at all. -/
  | silence
  deriving Repr, DecidableEq

namespace Contract

/-- The reply to one payload, or `none` when no reply is due. -/
def reply? (contract : Contract) (payload : Payload) : Option Payload :=
  match payload, contract.emptyPolicy with
  | [], .drop => none
  | [], .echo => some []
  | byte :: rest, _ => some (contract.transform.apply (byte :: rest))

/-- What to wait for after sending `payload` under this contract. -/
def expectation (contract : Contract) (payload : Payload) : Expectation :=
  match contract.reply? payload with
  | some expected => .reply expected
  | none => .silence

end Contract

/-- The capacity of a receive buffer unless another one is set. -/
def defaultBufferSize : Nat := 4096

/-- The largest payload of one datagram: 65535 bytes less the headers of 8 and 20 bytes. It is
also the largest useful buffer. -/
def maxPayloadSize : Nat := 65507

/-- Whether a receive buffer may have this capacity. An empty buffer would turn every datagram
into an empty one, and every payload would count as oversize. -/
def ValidBufferSize (size : Nat) : Prop :=
  1 ≤ size ∧ size ≤ maxPayloadSize

instance (size : Nat) : Decidable (ValidBufferSize size) :=
  inferInstanceAs (Decidable (_ ∧ _))

/-- How a received payload departs from the expected one. -/
structure Mismatch where
  /-- Number of bytes expected. -/
  expectedLength : Nat
  /-- Number of bytes received. -/
  actualLength : Nat
  /-- Offset of the first difference, when the lengths allow a comparison. -/
  firstDifference : Option Nat
  deriving Repr, DecidableEq

/-- Whether `received` keeps the contract that promised `expected` to a receiver with room for
`capacity` bytes. Within the capacity the two have to be equal; beyond it the received bytes have
to fit the capacity and begin the expected ones. -/
def checkReply (capacity : Nat) (expected received : Payload) : Except Mismatch Unit :=
  let mismatch (firstDifference : Option Nat) : Mismatch :=
    ⟨expected.length, received.length, firstDifference⟩
  if expected.length ≤ capacity then
    match Payload.firstDifference? expected received with
    | none => .ok ()
    | difference => .error (mismatch difference)
  else if received.length > capacity then
    .error (mismatch none)
  else
    match Payload.firstDifference? (expected.take received.length) received with
    | none => .ok ()
    | difference => .error (mismatch difference)

end DatagramEcho

import DatagramEcho.Client.Phase
import DatagramEcho.Client.Report
import DatagramEcho.Failure
import DatagramEcho.Network.Host
import DatagramEcho.Network.Link
import DatagramEcho.Script

/-!
# Client runs

A client sends the payloads of its script one at a time and checks each reply before it goes on.
The first failure ends the run.

* `connect` checks the buffer size, binds the socket and gives it its target.
* `exchange` is one exchange over a link, `run` a whole script.
* `Run.phases` are the phases entered, in order, starting after `idle`.

A run that waits forever for a reply that never comes has no result; it ends in `Halt.stalled`.
-/

namespace DatagramEcho.Client

/-- What a client is told to do. -/
structure Config where
  /-- The address to send to. -/
  target : SocketAddress
  /-- The address of the client's own socket. -/
  bind : SocketAddress
  /-- The capacity of the receive buffer. -/
  bufferSize : Nat := defaultBufferSize
  /-- How long to wait for a reply, or `none` to wait forever. -/
  timeout : Option TimeSpan := some (.ofMilliseconds 2000)
  /-- How long silence has to last. -/
  silenceWindow : TimeSpan := .ofMilliseconds 200
  /-- What the server is expected to do. -/
  contract : Contract := {}
  /-- The payloads to send. When there are none, the standard script is sent. -/
  payloads : Script := []
  deriving Repr, DecidableEq

namespace Config

/-- What a client does unless it is told otherwise. -/
def standard : Config where
  target := .v4 .loopback 5002
  bind := .v4 .unspecified 0

/-- The payloads that a client with this configuration sends. -/
def script (config : Config) : Script :=
  config.payloads.orStandard config.bufferSize

/-- How long a client waits to see that no reply comes. A socket cannot wait for no time at all. -/
def silenceWait (config : Config) : TimeSpan :=
  ⟨max config.silenceWindow.nanoseconds (TimeSpan.ofMilliseconds 1).nanoseconds⟩

/-- How long a client waits once a payload is sent, or `none` to wait forever. -/
def patience (config : Config) : Expectation → Option TimeSpan
  | .reply _ => config.timeout
  | .silence => some config.silenceWait

end Config

/-- A client that owns a socket with a target. -/
structure Connected where
  /-- What it was told to do. -/
  config : Config
  /-- The address of its socket. -/
  address : SocketAddress
  deriving Repr, DecidableEq

/-- Bind the socket of a client and give it its target. -/
def connect (host : Host) (config : Config) : Except Failure Connected :=
  if ValidBufferSize config.bufferSize then
    match host.bind config.bind with
    | .error fault => .error (.bind config.bind fault)
    | .ok address =>
      match host.connect address config.target with
      | .error fault => .error (.connect config.target fault)
      | .ok address => .ok ⟨config, address⟩
  else
    .error (.invalidBufferSize config.bufferSize)

/-- Why a run did not end in a report. -/
inductive Halt where
  /-- An exchange failed. -/
  | failure (failure : Failure)
  /-- The reply to an index is awaited forever. -/
  | stalled (index : Nat)
  deriving Repr, DecidableEq

/-- One exchange. -/
structure Attempt where
  /-- The phases entered, in order. -/
  phases : List Phase
  /-- The link after the exchange. -/
  link : Link
  /-- The entry for the report, or why there is none. -/
  result : Except Halt Exchange

/-- A run over a link. -/
structure Run where
  /-- The phases entered, in order, starting after `idle`. -/
  phases : List Phase
  /-- The link after the run. -/
  link : Link
  /-- The report, or why there is none. -/
  result : Except Halt Report

/-- The outcome of an exchange in which `expected` was due: the number of bytes received, or why the
run ends. -/
def judgeReply (config : Config) (index : Nat) (expected : Payload) :
    Arrival → Except Halt (Option Nat)
  | .datagram received =>
    match checkReply config.bufferSize expected received with
    | .ok () => .ok (some received.length)
    | .error mismatch => .error (.failure (.validation index mismatch))
  | .expired =>
    match config.timeout with
    | some waited => .error (.failure (.timeout index waited))
    | none => .error (.stalled index)
  | .failed fault => .error (.failure (.transport index .receive fault))

/-- The outcome of an exchange in which silence was due. -/
def judgeSilence (index : Nat) : Arrival → Except Halt (Option Nat)
  | .datagram received => .error (.failure (.unexpectedReply index received.length))
  | .expired => .ok none
  | .failed fault => .error (.failure (.transport index .receive fault))

/-- The outcome of an exchange with a given expectation. -/
def judge (config : Config) (index : Nat) (expectation : Expectation) (arrival : Arrival) :
    Except Halt (Option Nat) :=
  match expectation with
  | .reply expected => judgeReply config index expected arrival
  | .silence => judgeSilence index arrival

/-- The phases that an exchange enters once its payload is sent. What came is checked where
silence was due, whatever it is, and where a reply was due only if a datagram came. -/
def phasesAfterSend (index : Nat) (expectation : Expectation) (arrival : Arrival) : List Phase :=
  match expectation, arrival with
  | .reply _, .datagram _ => [.awaiting index, .checking index]
  | .reply _, _ => [.awaiting index]
  | .silence, _ => [.awaiting index, .checking index]

/-- Send one payload and check what comes back. -/
def exchange (config : Config) (index : Nat) (payload : Payload) (link : Link) : Attempt :=
  match link.send payload with
  | .error fault =>
    ⟨[.sending index], link, .error (.failure (.transport index .send fault))⟩
  | .ok link =>
    let expectation := config.contract.expectation payload
    let (arrival, link) := link.await (config.patience expectation) config.bufferSize
    let received := judge config index expectation arrival
    { phases := .sending index :: phasesAfterSend index expectation arrival
      link
      result := received.map fun received => ⟨index, payload.length, received⟩ }

/-- The phases that follow a halt. -/
def Halt.phases (index : Nat) : Halt → List Phase
  | .failure _ => [.failed index]
  | .stalled _ => []

/-- Run a script whose first payload has the index `index`. -/
def runFrom (config : Config) (index : Nat) : Script → Link → Run
  | [], link => ⟨[.done], link, .ok {}⟩
  | payload :: script, link =>
    let attempt := exchange config index payload link
    match attempt.result with
    | .error halt =>
      { phases := attempt.phases ++ halt.phases index, link := attempt.link, result := .error halt }
    | .ok first =>
      let later := runFrom config (index + 1) script attempt.link
      { phases := attempt.phases ++ later.phases
        link := later.link
        result := later.result.map (Report.cons first) }

/-- Run a whole script. -/
def run (config : Config) (script : Script) (link : Link) : Run :=
  runFrom config 0 script link

end DatagramEcho.Client

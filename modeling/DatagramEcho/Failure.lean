import DatagramEcho.Contract
import DatagramEcho.Network.Address
import DatagramEcho.Network.Fault
import DatagramEcho.TimeSpan

/-!
# Failures

A `Failure` is what ends the work of a server or a client. Those that come from an exchange carry
its index in the script. `message` is the text for readers, `parts` names the constituents on one
line, and `cause?` is the fault beneath, where there is one.
-/

namespace DatagramEcho

/-- The half of an exchange in which the transport failed. -/
inductive Direction where
  /-- The request could not be sent. -/
  | send
  /-- The wait for a reply failed. -/
  | receive
  deriving Repr, DecidableEq

/-- The direction inside a sentence. -/
def Direction.text : Direction → String
  | .send => "send"
  | .receive => "receive"

/-- The direction as a part of a failure. -/
def Direction.name : Direction → String
  | .send => "Send"
  | .receive => "Receive"

/-- What ends the work of a server or a client. -/
inductive Failure where
  /-- A socket could not be bound. -/
  | bind (address : SocketAddress) (fault : Fault)
  /-- A client's socket could not be given its target. -/
  | connect (address : SocketAddress) (fault : Fault)
  /-- The capacity of the receive buffer is out of range. -/
  | invalidBufferSize (size : Nat)
  /-- The transport failed during an exchange. -/
  | transport (index : Nat) (direction : Direction) (fault : Fault)
  /-- No reply arrived in time. -/
  | timeout (index : Nat) (waited : TimeSpan)
  /-- A reply broke the contract. -/
  | validation (index : Nat) (mismatch : Mismatch)
  /-- A reply arrived where silence was expected. -/
  | unexpectedReply (index : Nat) (actualLength : Nat)
  /-- A socket or an event loop failed outside any exchange. -/
  | io (fault : Fault)
  deriving Repr, DecidableEq

namespace Failure

/-- The index of the exchange that failed, if it was one. -/
def index? : Failure → Option Nat
  | transport index _ _ | timeout index _ | validation index _ | unexpectedReply index _ =>
    some index
  | bind _ _ | connect _ _ | invalidBufferSize _ | io _ => none

/-- The fault beneath a failure. -/
def cause? : Failure → Option Fault
  | bind _ fault | connect _ fault | transport _ _ fault | io fault => some fault
  | timeout _ _ | invalidBufferSize _ | validation _ _ | unexpectedReply _ _ => none

/-- The name of the kind of failure. -/
def name : Failure → String
  | bind _ _ => "Bind"
  | connect _ _ => "Connect"
  | invalidBufferSize _ => "InvalidBufferSize"
  | transport _ _ _ => "Transport"
  | timeout _ _ => "Timeout"
  | validation _ _ => "Validation"
  | unexpectedReply _ _ => "UnexpectedReply"
  | io _ => "Io"

/-- The complaint about a buffer size, shared with the check of a configuration. -/
def bufferSizeMessage (size : Nat) : String :=
  s!"Invalid buffer size {size}: must be between 1 and {maxPayloadSize}"

/-- The text of a failure for readers. -/
def message : Failure → String
  | bind address fault => "Failed to bind UDP socket on " ++ address.text ++ ": " ++ fault.message
  | connect address fault =>
    "Failed to connect UDP socket to " ++ address.text ++ ": " ++ fault.message
  | invalidBufferSize size => bufferSizeMessage size
  | transport index direction fault =>
    s!"Exchange {index}: " ++ direction.text ++ " failed: " ++ fault.message
  | timeout index waited => s!"Exchange {index}: no reply within " ++ waited.text
  | validation index mismatch =>
    let offset := match mismatch.firstDifference with
      | some offset => s!", first difference at byte {offset}"
      | none => ""
    s!"Exchange {index}: reply mismatch (expected " ++ toString mismatch.expectedLength
      ++ " bytes, got " ++ toString mismatch.actualLength ++ offset ++ ")"
  | unexpectedReply index actualLength =>
    s!"Exchange {index}: expected no reply, got {actualLength} bytes"
  | io fault => "I/O error: " ++ fault.message

/-- A name and its fields, as one line. -/
def record (name : String) (fields : List (String × String)) : String :=
  name ++ " \x7b " ++
    ", ".intercalate (fields.map fun field => field.1 ++ ": " ++ field.2) ++ " \x7d"

/-- An optional number as a field. -/
def optionalField : Option Nat → String
  | some value => "Some(" ++ toString value ++ ")"
  | none => "None"

/-- The text of a failure that names its parts. -/
def parts (failure : Failure) : String :=
  match failure with
  | bind address fault | connect address fault =>
    record failure.name [("addr", address.text), ("source", fault.parts)]
  | invalidBufferSize size => record failure.name [("size", toString size)]
  | transport index direction fault =>
    record failure.name
      [("index", toString index), ("step", direction.name), ("source", fault.parts)]
  | timeout index waited =>
    record failure.name [("index", toString index), ("waited", waited.text)]
  | validation index mismatch =>
    record failure.name
      [("index", toString index), ("expected_len", toString mismatch.expectedLength),
        ("actual_len", toString mismatch.actualLength),
        ("first_mismatch", optionalField mismatch.firstDifference)]
  | unexpectedReply index actualLength =>
    record failure.name [("index", toString index), ("actual_len", toString actualLength)]
  | io fault => failure.name ++ "(" ++ fault.parts ++ ")"

end Failure

end DatagramEcho

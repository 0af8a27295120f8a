/-!
# Traffic counters

A server counts what it does over its lifetime. Its counters have 64 bits each; here they are plain
numbers, which come to the same as long as all of them fit.
-/

namespace DatagramEcho

/-- What a server has done so far. The numbers may be of any size; they are those of a server for as
long as they fit into its counters (`Counters.Fits`). -/
structure Counters where
  /-- Datagrams received. -/
  received : Nat := 0
  /-- Replies sent. -/
  echoed : Nat := 0
  /-- Empty datagrams that got no reply. -/
  droppedEmpty : Nat := 0
  /-- Bytes in the replies sent. -/
  bytesEchoed : Nat := 0
  /-- Receives that failed. -/
  receiveErrors : Nat := 0
  /-- Replies that could not be sent. -/
  sendErrors : Nat := 0
  deriving Repr, DecidableEq

/-- Every number fits into a counter of 64 bits. -/
structure Counters.Fits (counters : Counters) : Prop where
  /-- Datagrams received. -/
  received : counters.received < UInt64.size
  /-- Replies sent. -/
  echoed : counters.echoed < UInt64.size
  /-- Empty datagrams that got no reply. -/
  droppedEmpty : counters.droppedEmpty < UInt64.size
  /-- Bytes in the replies sent. -/
  bytesEchoed : counters.bytesEchoed < UInt64.size
  /-- Receives that failed. -/
  receiveErrors : counters.receiveErrors < UInt64.size
  /-- Replies that could not be sent. -/
  sendErrors : counters.sendErrors < UInt64.size

end DatagramEcho

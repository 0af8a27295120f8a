/-!
# Run reports

A run in which every exchange kept the contract ends in a report, one entry for each exchange.
-/

namespace DatagramEcho.Client

/-- An exchange that kept the contract. -/
structure Exchange where
  /-- Its index in the script. -/
  index : Nat
  /-- Number of bytes sent. -/
  sentLength : Nat
  /-- Number of bytes received, or `none` where silence was due and kept. -/
  receivedLength : Option Nat
  deriving Repr, DecidableEq

/-- The exchanges of a run, in order. -/
structure Report where
  /-- One entry for each payload of the script. -/
  exchanges : List Exchange := []
  deriving Repr, DecidableEq

namespace Report

/-- Total number of bytes sent. -/
def bytesSent (report : Report) : Nat :=
  (report.exchanges.map (·.sentLength)).foldr (· + ·) 0

/-- Total number of bytes received. -/
def bytesReceived (report : Report) : Nat :=
  (report.exchanges.filterMap (·.receivedLength)).foldr (· + ·) 0

/-- The report of a run that went on after `first`. -/
def cons (first : Exchange) (later : Report) : Report :=
  ⟨first :: later.exchanges⟩

@[simp]
theorem bytesSent_cons (first : Exchange) (later : Report) :
    (cons first later).bytesSent = first.sentLength + later.bytesSent := by
  simp [bytesSent, cons]

@[simp]
theorem bytesReceived_cons (first : Exchange) (later : Report) :
    (cons first later).bytesReceived = first.receivedLength.getD 0 + later.bytesReceived := by
  cases h : first.receivedLength <;> simp [bytesReceived, cons, h]

end Report

end DatagramEcho.Client

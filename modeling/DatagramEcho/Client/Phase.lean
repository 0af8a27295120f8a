/-!
# Client phases

A client run goes through phases. It sends the payload of each index, waits for the reply to it,
checks what came, and goes on with the next index:

`idle → sending 0 → awaiting 0 → checking 0 → sending 1 → … → done`

From every phase that is not an end it may also turn to `failed`.
-/

namespace DatagramEcho.Client

/-- Where a client is in its run. -/
inductive Phase where
  /-- Nothing has been sent. -/
  | idle
  /-- The payload of an index is being sent. -/
  | sending (index : Nat)
  /-- The reply to an index is awaited. -/
  | awaiting (index : Nat)
  /-- What came for an index is being checked. -/
  | checking (index : Nat)
  /-- Every payload has been exchanged. -/
  | done
  /-- The exchange of an index failed. -/
  | failed (index : Nat)
  deriving Repr, DecidableEq

namespace Phase

/-- Whether nothing follows a phase. -/
def isFinal : Phase → Bool
  | done | failed _ => true
  | _ => false

/-- Whether `next` may directly follow `phase`. -/
def canAdvanceTo (phase next : Phase) : Bool :=
  match phase, next with
  | _, failed _ => !phase.isFinal
  | idle, sending index => index == 0
  | idle, done => true
  | sending i, awaiting j => i == j
  | awaiting i, checking j => i == j
  | checking i, sending j => j == i + 1
  | checking _, done => true
  | _, _ => false

/-- The written form of a phase. -/
def text : Phase → String
  | idle => "Idle"
  | sending index => s!"Sending({index})"
  | awaiting index => s!"AwaitingReply({index})"
  | checking index => s!"Validating({index})"
  | done => "Done"
  | failed index => s!"Failed({index})"

/-- The steps of a run that starts idle and enters `phases` one after another. -/
def transitions (phases : List Phase) : List (Phase × Phase) :=
  (idle :: phases).zip phases

/-- The written form of a step. -/
def transitionText (step : Phase × Phase) : String :=
  step.1.text ++ " -> " ++ step.2.text

end Phase

end DatagramEcho.Client

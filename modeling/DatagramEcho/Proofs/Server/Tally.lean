import DatagramEcho.Server.Responder
import Mathlib.Algebra.BigOperators.Group.List.Basic
import Mathlib.Algebra.GroupWithZero.Nat
import Mathlib.Data.Nat.Notation

/-!
# The tally of a responder

An event loop may report its events in any order: replies may be sent late, several at once, or not
at all. Whatever it reports, the reply to a datagram depends on that datagram only, and the counters
only on how many events of each kind there were.

* `Event.due`: the reply that an event makes due.
* `tally`: the counters that belong to a list of events, found by counting.
* `Tallies.handle`: one more event is tallied as one more event.
* `tally_perm`: the order of the events does not matter.
* `handleAll_account`: what the responder replies and counts.
-/

namespace DatagramEcho.Responder

namespace Event

/-- The payload that was received. -/
def payload? : Event → Option Payload
  | received payload => some payload
  | _ => none

/-- The length of the reply that was sent. -/
def sentLength? : Event → Option ℕ
  | sent length => some length
  | _ => none

/-- Whether a receive failed. -/
def isReceiveFailed : Event → Bool
  | receiveFailed _ => true
  | _ => false

/-- Whether a reply could not be sent. -/
def isSendFailed : Event → Bool
  | sendFailed _ => true
  | _ => false

/-- The reply that an event makes due under a contract. -/
def due (contract : Contract) (event : Event) : Option Payload :=
  event.payload?.bind contract.reply?

end Event

/-- The counters that belong to a list of events. -/
def tally (contract : Contract) (events : List Event) : Counters where
  received := (events.filterMap Event.payload?).length
  echoed := (events.filterMap Event.sentLength?).length
  droppedEmpty :=
    (events.filterMap Event.payload?).countP fun payload => (contract.reply? payload).isNone
  bytesEchoed := (events.filterMap Event.sentLength?).sum
  receiveErrors := events.countP Event.isReceiveFailed
  sendErrors := events.countP Event.isSendFailed

/-- A responder with this contract that has counted these events. -/
structure Tallies (contract : Contract) (events : List Event) (responder : Responder) : Prop where
  /-- The contract is kept. -/
  contract_eq : responder.contract = contract
  /-- The counters are the tally. -/
  counters_eq : responder.counters = tally contract events

variable {contract : Contract} {responder : Responder} {done events : List Event} {event : Event}

/-! ### Replies -/

theorem fst_handle (responder : Responder) (event : Event) :
    (responder.handle event).1 = event.due responder.contract := by
  cases event with
  | received payload => exact responder.reply_receive payload
  | _ => rfl

theorem fst_handleAll (responder : Responder) (events : List Event) :
    (responder.handleAll events).1 = events.map (Event.due responder.contract) := by
  induction events generalizing responder with
  | nil => rfl
  | cons event events ih =>
    rw [List.map_cons, ← fst_handle, ← responder.contract_handle event, ← ih]
    rfl

/-! ### Counters -/

/-- The tallies of two lists of events add up. -/
theorem tally_append (contract : Contract) (before after : List Event) :
    let first := tally contract before
    let second := tally contract after
    tally contract (before ++ after) = {
      received := first.received + second.received
      echoed := first.echoed + second.echoed
      droppedEmpty := first.droppedEmpty + second.droppedEmpty
      bytesEchoed := first.bytesEchoed + second.bytesEchoed
      receiveErrors := first.receiveErrors + second.receiveErrors
      sendErrors := first.sendErrors + second.sendErrors } := by
  simp only [tally, List.filterMap_append, List.length_append, List.countP_append, List.sum_append]

/-- One more event is tallied as one more event. -/
theorem Tallies.handle (htallies : Tallies contract done responder) (event : Event) :
    Tallies contract (done ++ [event]) (responder.handle event).2 := by
  obtain ⟨rfl, hcounters⟩ := htallies
  refine ⟨responder.contract_handle event, ?_⟩
  rw [tally_append, ← hcounters]
  cases event with
  | received payload =>
    -- whether a second counter moves depends on the contract
    rw [Responder.handle, receive]
    cases hreply : responder.contract.reply? payload with
    | some reply =>
      have hdropped : (tally responder.contract [.received payload]).droppedEmpty = 0 := by
        simp [tally, Event.payload?, hreply]
      rw [hdropped]
      rfl
    | none =>
      have hdropped : (tally responder.contract [.received payload]).droppedEmpty = 1 := by
        simp [tally, Event.payload?, hreply]
      rw [hdropped]
      rfl
  | _ => rfl

theorem Tallies.handleAll (htallies : Tallies contract done responder) (events : List Event) :
    Tallies contract (done ++ events) (responder.handleAll events).2 := by
  induction events generalizing done responder with
  | nil => rwa [List.append_nil]
  | cons event events ih =>
    rw [List.append_cons]
    exact ih (htallies.handle event)

/-- Every entry of a history holds the reply to its event and the tally up to it. -/
theorem Tallies.getElem?_history (htallies : Tallies contract done responder)
    {before after : List Event} (hevents : events = before ++ event :: after) :
    (responder.history events)[before.length]? =
      some (event.due contract, tally contract (done ++ before ++ [event])) := by
  subst hevents
  induction before generalizing done responder with
  | nil =>
    have hreply := fst_handle responder event
    rw [htallies.contract_eq] at hreply
    rw [← hreply, List.append_nil, ← (htallies.handle event).counters_eq]
    rfl
  | cons first before ih =>
    rw [List.append_cons done]
    exact ih (htallies.handle first)

theorem length_history (responder : Responder) (events : List Event) :
    (responder.history events).length = events.length := by
  induction events generalizing responder with
  | nil => rfl
  | cons event events ih => exact congrArg (· + 1) (ih _)

/-- The order in which events are reported does not matter. -/
theorem tally_perm {events' : List Event} (hperm : events'.Perm events) :
    tally contract events' = tally contract events := by
  have hpayloads := hperm.filterMap Event.payload?
  have hlengths := hperm.filterMap Event.sentLength?
  simp only [tally, hpayloads.length_eq, hlengths.length_eq, hpayloads.countP_eq,
    hlengths.sum_eq, hperm.countP_eq]

/-- A datagram has a reply or is dropped. -/
theorem received_tally (contract : Contract) (events : List Event) :
    (tally contract events).received =
      (tally contract events).droppedEmpty +
        (events.map (Event.due contract)).countP (·.isSome) := by
  have hreplied : (events.map (Event.due contract)).countP (·.isSome) =
      (events.filterMap Event.payload?).countP fun payload => (contract.reply? payload).isSome := by
    rw [List.countP_map, List.countP_filterMap]
    congr
    funext event
    cases hpayload : event.payload? <;> simp [Event.due, hpayload]
  rw [hreplied, Nat.add_comm]
  simp only [tally]
  rw [List.length_eq_countP_add_countP fun payload => (contract.reply? payload).isSome]
  simp only [Bool.not_eq_true, Option.isSome_eq_false_iff, Bool.decide_eq_true]

/-- Events can be counted with 64 bits if there are less than `UInt64.size` of them and less than
`UInt64.size` bytes are sent in them. -/
theorem fits_tally (contract : Contract) (hcount : events.length < UInt64.size)
    (hbytes : (events.filterMap Event.sentLength?).sum < UInt64.size) :
    (tally contract events).Fits := by
  have hreceived := events.length_filterMap_le Event.payload?
  exact {
    received := Nat.lt_of_le_of_lt hreceived hcount
    echoed := Nat.lt_of_le_of_lt (events.length_filterMap_le Event.sentLength?) hcount
    droppedEmpty := Nat.lt_of_le_of_lt (Nat.le_trans List.countP_le_length hreceived) hcount
    bytesEchoed := hbytes
    receiveErrors := Nat.lt_of_le_of_lt List.countP_le_length hcount
    sendErrors := Nat.lt_of_le_of_lt List.countP_le_length hcount }

/-- Events of which all can be counted can be counted one after the other. -/
theorem Tallies.fits_of_mem_history (hstart : Tallies contract [] responder)
    (hcount : events.length < UInt64.size)
    (hbytes : (events.filterMap Event.sentLength?).sum < UInt64.size)
    {entry : Option Payload × Counters} (hentry : entry ∈ responder.history events) :
    entry.2.Fits := by
  obtain ⟨index, hindex⟩ := List.mem_iff_getElem?.mp hentry
  have hlt : index < events.length := by
    rw [← responder.length_history events]
    exact (List.getElem?_eq_some_iff.mp hindex).1
  -- the entry is the tally of the events up to its index
  have hevents : events = events.take index ++ events[index] :: events.drop (index + 1) := by
    rw [List.getElem_cons_drop, List.take_append_drop]
  have hfound := hstart.getElem?_history hevents
  rw [List.length_take_of_le (Nat.le_of_lt hlt), hindex] at hfound
  rw [Option.some.inj hfound, List.nil_append]
  have hsplit : events = (events.take index ++ [events[index]]) ++ events.drop (index + 1) := by
    rwa [← List.append_cons]
  rw [hsplit, List.length_append] at hcount
  rw [hsplit, List.filterMap_append, List.sum_append] at hbytes
  exact fits_tally contract (by omega) (by omega)

/-- Whatever events a responder is told of and in whatever order, the reply to each datagram is the
one that the contract says, and after each event the counters are the tally of the events so far. In
the end every datagram was dropped or had a reply, and the same events in another order lead to the
same counters. None of the counters has ever left its 64 bits, if the events and the bytes sent can
be counted with them. -/
theorem handleAll_account (contract : Contract) (events : List Event) :
    let responder : Responder := { contract }
    let replies := (responder.handleAll events).1
    let counters := (responder.handleAll events).2.counters
    replies = events.map (Event.due contract) ∧ counters = tally contract events ∧
      (responder.history events).length = events.length ∧
      (∀ before event after, events = before ++ event :: after →
        (responder.history events)[before.length]? =
          some (event.due contract, tally contract (before ++ [event]))) ∧
      counters.received = counters.droppedEmpty + replies.countP (·.isSome) ∧
      (∀ events', events'.Perm events →
        (responder.handleAll events').2.counters = counters) ∧
      (events.length < UInt64.size → (events.filterMap Event.sentLength?).sum < UInt64.size →
        ∀ entry ∈ responder.history events, entry.2.Fits) := by
  intro responder replies counters
  have hstart : Tallies contract [] responder := ⟨rfl, rfl⟩
  have hreplies : replies = events.map (Event.due contract) := responder.fst_handleAll events
  have hcounters : counters = tally contract events := (hstart.handleAll events).counters_eq
  refine ⟨hreplies, hcounters, responder.length_history events, ?_, ?_, ?_, ?_⟩
  · intro before event after hevents
    exact hstart.getElem?_history hevents
  · rw [hreplies, hcounters, received_tally]
  · intro events' hperm
    rw [hcounters, ← tally_perm hperm]
    exact (hstart.handleAll events').counters_eq
  · intro hcount hbytes entry hentry
    exact hstart.fits_of_mem_history hcount hbytes hentry

end DatagramEcho.Responder

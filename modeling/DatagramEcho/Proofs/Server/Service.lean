import DatagramEcho.Proofs.Server.Ledger
import DatagramEcho.Server.Loop.Service
import Mathlib.Data.List.Induction
import Mathlib.Logic.Relation

/-!
# The accounts of a service

Every event loop moves its service by the same few steps. What these steps keep is therefore the
same for all loops. Datagrams are taken in the order of their arrival, and what was sent and counted
so far is settled by the datagrams taken, up to the last one, which may still be in handling.

* `Contract.replies` and `Contract.ledgerOf`: the replies due to a list of datagrams, in order and
  each to its sender, and the counters that belong to the list.
* `Service.Accounts`: what was sent and counted when the handling has come as far as it has.
* `Service.Lawful`: the invariant, with one lemma for each step.
* `Service.exists_handled`: no datagram gets stuck in handling.
* `Service.AtRest`: all that arrived is served. `Service.exists_served` says when a loop can get
  there.
-/

namespace DatagramEcho

/-- The replies to datagrams, as a buffer cuts them, each to the sender of its datagram. -/
def Contract.replies (contract : Contract) (capacity : ℕ) (parcels : List Server.Parcel) :
    List Server.Parcel :=
  parcels.filterMap fun parcel =>
    (contract.answer? capacity parcel.payload).map fun reply => ⟨parcel.sender, reply⟩

/-- The ledger of a server that got these datagrams, whoever sent them. -/
def Contract.ledgerOf (contract : Contract) (capacity : ℕ) (parcels : List Server.Parcel) :
    Counters :=
  contract.ledger capacity (parcels.map (·.payload))

namespace Contract

variable {contract : Contract} {capacity : ℕ} {before : List Server.Parcel} {parcel : Server.Parcel}

/-- A datagram without a reply adds nothing to the replies. -/
theorem replies_append_of_none (hanswer : contract.answer? capacity parcel.payload = none) :
    contract.replies capacity (before ++ [parcel]) = contract.replies capacity before := by
  simp [replies, hanswer]

/-- The reply to a datagram follows those to the datagrams before it. -/
theorem replies_append_of_some {reply : Payload}
    (hanswer : contract.answer? capacity parcel.payload = some reply) :
    contract.replies capacity (before ++ [parcel]) =
      contract.replies capacity before ++ [⟨parcel.sender, reply⟩] := by
  simp [replies, hanswer]

/-- A datagram without a reply is received and dropped. -/
theorem ledgerOf_append_of_none (hanswer : contract.answer? capacity parcel.payload = none) :
    contract.ledgerOf capacity (before ++ [parcel]) =
      { contract.ledgerOf capacity before with
        received := (contract.ledgerOf capacity before).received + 1
        droppedEmpty := (contract.ledgerOf capacity before).droppedEmpty + 1 } := by
  rw [ledgerOf, List.map_append, List.map_singleton, ledger_append_of_none hanswer, ledgerOf]

/-- A datagram with a reply is received and echoed. -/
theorem ledgerOf_append_of_some {reply : Payload}
    (hanswer : contract.answer? capacity parcel.payload = some reply) :
    contract.ledgerOf capacity (before ++ [parcel]) =
      { contract.ledgerOf capacity before with
        received := (contract.ledgerOf capacity before).received + 1
        echoed := (contract.ledgerOf capacity before).echoed + 1
        bytesEchoed := (contract.ledgerOf capacity before).bytesEchoed + reply.length } := by
  rw [ledgerOf, List.map_append, List.map_singleton, ledger_append_of_some hanswer, ledgerOf]

end Contract

namespace Server.Service

/-- The replies sent and the counters when the datagrams `taken` were taken. All but the last one of
them are answered and counted. How far the last one has come, the handling tells. -/
inductive Accounts (contract : Contract) (capacity : ℕ) :
    (taken : List Parcel) → Handling → (replies : List Parcel) → Counters → Prop
  /-- The last one is answered and counted as well. -/
  | free (taken : List Parcel) :
    Accounts contract capacity taken .free (contract.replies capacity taken)
      (contract.ledgerOf capacity taken)
  /-- The last one, cut to the buffer, is not counted yet. -/
  | taken (before : List Parcel) (parcel : Parcel) :
    Accounts contract capacity (before ++ [parcel]) (.taken (parcel.cut capacity))
      (contract.replies capacity before) (contract.ledgerOf capacity before)
  /-- The last one is counted, and its reply is not sent yet. -/
  | replying (before : List Parcel) (parcel : Parcel) {reply : Payload}
      (hanswer : contract.answer? capacity parcel.payload = some reply) :
    Accounts contract capacity (before ++ [parcel]) (.replying ⟨parcel.sender, reply⟩)
      (contract.replies capacity before)
      { contract.ledgerOf capacity before with
        received := (contract.ledgerOf capacity before).received + 1 }
  /-- The reply to the last one is sent, and not counted yet. -/
  | sent (before : List Parcel) (parcel : Parcel) {reply : Payload}
      (hanswer : contract.answer? capacity parcel.payload = some reply) :
    Accounts contract capacity (before ++ [parcel]) (.sent reply.length)
      (contract.replies capacity (before ++ [parcel]))
      { contract.ledgerOf capacity before with
        received := (contract.ledgerOf capacity before).received + 1 }

namespace Accounts

variable {contract : Contract} {capacity : ℕ} {taken : List Parcel} {replies : List Parcel}
  {counters : Counters}

/-- When no datagram is in handling, every one that was taken is answered and counted. -/
theorem free_iff :
    Accounts contract capacity taken .free replies counters ↔
      replies = contract.replies capacity taken ∧ counters = contract.ledgerOf capacity taken := by
  constructor
  · intro haccounts
    cases haccounts
    exact ⟨rfl, rfl⟩
  · rintro ⟨rfl, rfl⟩
    exact .free taken

/-- When a datagram is not counted yet, the ledger is that of the ones before it. -/
theorem exists_of_taken {cut : Parcel}
    (haccounts : Accounts contract capacity taken (.taken cut) replies counters) :
    ∃ before parcel, taken = before ++ [parcel] ∧ cut = parcel.cut capacity ∧
      replies = contract.replies capacity before ∧
      counters = contract.ledgerOf capacity before := by
  cases haccounts with
  | taken before parcel => exact ⟨before, parcel, rfl, rfl, rfl, rfl⟩

/-- When a reply is due, it is the one to the last datagram. -/
theorem exists_of_replying {due : Parcel}
    (haccounts : Accounts contract capacity taken (.replying due) replies counters) :
    ∃ before parcel, taken = before ++ [parcel] ∧ parcel.sender = due.sender ∧
      contract.answer? capacity parcel.payload = some due.payload ∧
      replies = contract.replies capacity before ∧
      counters = { contract.ledgerOf capacity before with
        received := (contract.ledgerOf capacity before).received + 1 } := by
  cases haccounts with
  | replying before parcel hanswer => exact ⟨before, parcel, rfl, rfl, hanswer, rfl, rfl⟩

/-- When a reply is sent, only its own counters are missing. -/
theorem exists_of_sent {length : ℕ}
    (haccounts : Accounts contract capacity taken (.sent length) replies counters) :
    ∃ before parcel reply, taken = before ++ [parcel] ∧ reply.length = length ∧
      contract.answer? capacity parcel.payload = some reply ∧
      replies = contract.replies capacity taken ∧
      counters = { contract.ledgerOf capacity before with
        received := (contract.ledgerOf capacity before).received + 1 } := by
  cases haccounts with
  | sent before parcel hanswer => exact ⟨before, parcel, _, rfl, rfl, hanswer, rfl, rfl⟩

end Accounts

/-- Counting a datagram without a reply finishes it. -/
theorem count_of_none (service : Service) (cut : Parcel)
    (hreply : service.responder.contract.reply? cut.payload = none) :
    service.count cut =
      { service with
        responder := { service.responder with
          counters := { service.responder.counters with
            received := service.responder.counters.received + 1
            droppedEmpty := service.responder.counters.droppedEmpty + 1 } }
        handling := .free } := by
  simp only [count, Responder.receive_of_none hreply]

/-- Counting a datagram with a reply makes the reply due. -/
theorem count_of_some (service : Service) (cut : Parcel) {reply : Payload}
    (hreply : service.responder.contract.reply? cut.payload = some reply) :
    service.count cut =
      { service with
        responder := { service.responder with
          counters := { service.responder.counters with
            received := service.responder.counters.received + 1 } }
        handling := .replying ⟨cut.sender, reply⟩ } := by
  simp only [count, Responder.receive_of_some hreply]

/-- A service that follows `contract` with a buffer of `capacity` bytes. -/
structure Lawful (contract : Contract) (capacity : ℕ) (service : Service) : Prop where
  /-- The buffer has its capacity. -/
  capacity_eq : service.capacity = capacity
  /-- The contract is kept. -/
  contract_eq : service.responder.contract = contract
  /-- What has arrived was taken in order, or waits in order. -/
  arrived_eq : service.arrived = service.taken ++ service.queue
  /-- What was sent and counted is what had to be. -/
  accounts : Accounts contract capacity service.taken service.handling service.replies
    service.responder.counters

/-- A request to stop is not taken back. -/
theorem Outside.stopRequested {service next : Service} (hstep : service.Outside next)
    (hrequested : service.stopRequested = true) : next.stopRequested = true := by
  cases hstep with
  | arrive parcel => exact hrequested
  | requestStop => rfl

/-- The surroundings do not touch the datagram in handling. -/
theorem Outside.handling_eq {service next : Service} (hstep : service.Outside next) :
    next.handling = service.handling := by
  cases hstep <;> rfl

namespace Lawful

variable {contract : Contract} {capacity : ℕ} {service next : Service}

/-- At the start nothing was taken. -/
theorem start (contract : Contract) (capacity : ℕ) (waiting : List Parcel) (stopRequested : Bool) :
    (Service.start capacity { contract } waiting stopRequested).Lawful contract capacity :=
  ⟨rfl, rfl, rfl, .free []⟩

/-- A datagram that arrives joins the queue, and a request to stop changes no account. -/
theorem outside (hlawful : service.Lawful contract capacity) (hstep : service.Outside next) :
    next.Lawful contract capacity := by
  obtain ⟨hcapacity, hcontract, harrived, haccounts⟩ := hlawful
  cases hstep with
  | arrive parcel =>
    refine ⟨hcapacity, hcontract, ?_, haccounts⟩
    simp only [arrive, harrived, List.append_assoc]
  | requestStop => exact ⟨hcapacity, hcontract, harrived, haccounts⟩

/-- The oldest datagram is taken when no other one is in handling. -/
theorem take (hlawful : service.Lawful contract capacity) (hfree : service.handling = .free)
    {parcel : Parcel} {later : List Parcel} (hqueue : service.queue = parcel :: later) :
    (service.take parcel later).Lawful contract capacity := by
  obtain ⟨hcapacity, hcontract, harrived, haccounts⟩ := hlawful
  refine ⟨hcapacity, hcontract, ?_, ?_⟩
  · simp only [Service.take, harrived, hqueue, List.append_assoc, List.singleton_append]
  · rw [hfree, Accounts.free_iff] at haccounts
    simp only [Service.take, haccounts, hcapacity]
    exact .taken service.taken parcel

/-- The datagram that was taken is counted. It is finished if it gets no reply. -/
theorem count (hlawful : service.Lawful contract capacity) {cut : Parcel}
    (htaken : service.handling = .taken cut) : (service.count cut).Lawful contract capacity := by
  obtain ⟨hcapacity, rfl, harrived, haccounts⟩ := hlawful
  rw [htaken] at haccounts
  obtain ⟨before, parcel, hbefore, rfl, hreplies, hcounters⟩ := haccounts.exists_of_taken
  -- what the responder sees is the datagram as it was cut, so its reply is the answer
  cases hanswer : service.responder.contract.answer? capacity parcel.payload with
  | none =>
    rw [service.count_of_none (parcel.cut capacity) hanswer]
    refine ⟨hcapacity, rfl, harrived, ?_⟩
    rw [Accounts.free_iff, hbefore, Contract.replies_append_of_none hanswer]
    refine ⟨hreplies, ?_⟩
    rw [Contract.ledgerOf_append_of_none hanswer, ← hcounters]
  | some reply =>
    rw [service.count_of_some (parcel.cut capacity) hanswer]
    refine ⟨hcapacity, rfl, harrived, ?_⟩
    simp only [hbefore, hreplies, hcounters]
    exact .replying before parcel hanswer

/-- A reply that is due is sent to the sender of the last datagram. -/
theorem send (hlawful : service.Lawful contract capacity) {reply : Parcel}
    (hdue : service.handling = .replying reply) :
    (service.send reply).Lawful contract capacity := by
  obtain ⟨hcapacity, hcontract, harrived, haccounts⟩ := hlawful
  rw [hdue] at haccounts
  obtain ⟨before, parcel, hbefore, hsender, hanswer, hreplies, hcounters⟩ :=
    haccounts.exists_of_replying
  refine ⟨hcapacity, hcontract, harrived, ?_⟩
  have hsent : service.replies ++ [reply] = contract.replies capacity (before ++ [parcel]) := by
    rw [Contract.replies_append_of_some hanswer, hreplies, hsender]
  simp only [Service.send, hbefore, hsent, hcounters]
  exact .sent before parcel hanswer

/-- A reply that was sent is counted, which finishes the last datagram. -/
theorem book (hlawful : service.Lawful contract capacity) {length : ℕ}
    (hsent : service.handling = .sent length) : (service.book length).Lawful contract capacity := by
  obtain ⟨hcapacity, hcontract, harrived, haccounts⟩ := hlawful
  rw [hsent] at haccounts
  obtain ⟨before, parcel, reply, hbefore, rfl, hanswer, hreplies, hcounters⟩ :=
    haccounts.exists_of_sent
  refine ⟨hcapacity, hcontract, harrived, ?_⟩
  simp only [Service.book, Accounts.free_iff]
  refine ⟨hreplies, ?_⟩
  rw [hbefore, Contract.ledgerOf_append_of_some hanswer, Responder.sent, hcounters]

/-- Datagrams are taken in the order of their arrival. -/
theorem taken_prefix (hlawful : service.Lawful contract capacity) :
    service.taken <+: service.arrived := by
  rw [hlawful.arrived_eq]
  exact List.prefix_append service.taken service.queue

/-- Each step of the handling carries the last datagram one stage further. -/
theorem handle (hlawful : service.Lawful contract capacity) (hstep : service.Handle next) :
    next.Lawful contract capacity := by
  cases hstep with
  | count htaken => exact hlawful.count htaken
  | send hdue => exact hlawful.send hdue
  | book hsent => exact hlawful.book hsent

end Lawful

/-- Whatever is in handling can be handled to its end, which touches neither the queue nor what has
arrived nor a request to stop. -/
theorem exists_handled (service : Service) :
    ∃ next, Relation.ReflTransGen Handle service next ∧ next.handling = .free ∧
      next.queue = service.queue ∧ next.arrived = service.arrived ∧
      next.stopRequested = service.stopRequested := by
  cases hhandling : service.handling with
  | free => exact ⟨service, .refl, hhandling, rfl, rfl, rfl⟩
  | sent length => exact ⟨_, .single (.book hhandling), rfl, rfl, rfl, rfl⟩
  | replying reply =>
    have hsend : Handle service (service.send reply) := .send hhandling
    exact ⟨_, (Relation.ReflTransGen.single hsend).tail (.book rfl), rfl, rfl, rfl, rfl⟩
  | taken cut =>
    have hcount : Handle service (service.count cut) := .count hhandling
    cases hreply : service.responder.contract.reply? cut.payload with
    | none =>
      rw [service.count_of_none cut hreply] at hcount
      exact ⟨_, .single hcount, rfl, rfl, rfl, rfl⟩
    | some reply =>
      rw [service.count_of_some cut hreply] at hcount
      exact ⟨_, ((Relation.ReflTransGen.single hcount).tail (.send rfl)).tail (.book rfl), rfl, rfl,
        rfl, rfl⟩

/-- Everything that arrived is served. -/
structure AtRest (arrived : List Parcel) (service : Service) : Prop where
  /-- This is what arrived. -/
  arrived_eq : service.arrived = arrived
  /-- Nothing waits. -/
  queue_eq : service.queue = []
  /-- Nothing is in handling. -/
  handling_eq : service.handling = .free

/-- A loop that can take the next datagram when nothing is in handling, and handle it, can serve all
that has arrived. `Leads` are the services to which it leads. -/
theorem exists_served (Leads : Service → Prop)
    (htake : ∀ {service parcel later}, Leads service → service.handling = .free →
      service.queue = parcel :: later → Leads (service.take parcel later))
    (hhandle : ∀ {service next}, Leads service → service.Handle next → Leads next)
    {service : Service} (hleads : Leads service) :
    ∃ next, Leads next ∧ next.AtRest service.arrived ∧
      next.stopRequested = service.stopRequested := by
  induction hqueue : service.queue generalizing service with
  | nil =>
    obtain ⟨next, hhandles, hfree, hempty, harrived, hstop⟩ := service.exists_handled
    have hnext : Leads next := hhandles.rec hleads fun _ hstep hleads => hhandle hleads hstep
    exact ⟨next, hnext, ⟨harrived, hempty.trans hqueue, hfree⟩, hstop⟩
  -- what is in handling comes first, and then the oldest datagram of the queue
  | cons parcel later ih =>
    obtain ⟨next, hhandles, hfree, hnextQueue, harrived, hstop⟩ := service.exists_handled
    have hnext : Leads next := hhandles.rec hleads fun _ hstep hleads => hhandle hleads hstep
    have htaken := htake hnext hfree (hnextQueue.trans hqueue)
    obtain ⟨last, hlast, hrest, hlastStop⟩ := ih htaken rfl
    rw [← harrived, ← hstop]
    exact ⟨last, hlast, hrest, hlastStop⟩

end Server.Service

end DatagramEcho

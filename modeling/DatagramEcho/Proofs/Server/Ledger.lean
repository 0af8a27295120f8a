import DatagramEcho.Proofs.Contract
import DatagramEcho.Proofs.Server.Endpoint
import Mathlib.Algebra.BigOperators.Group.List.Basic
import Mathlib.Algebra.GroupWithZero.Nat

/-!
# The ledger of a server

What the counters of a server have to show is settled by the datagrams that it got, and by nothing
else. `Contract.ledger` says it by counting; the counters that a server keeps, one datagram after
the other, come to the same.

* `Contract.answer?`: the reply to a datagram as a buffer cuts it.
* `Contract.ledger`: the counters that belong to a list of datagrams.
* `counters_serve`: a server that serves one more datagram has the ledger of one more.
* `droppedEmpty_ledger`, `bytesEchoed_ledger` and `echoed_add_droppedEmpty_ledger`: the ledger in
  terms of the datagrams.
-/

namespace DatagramEcho

/-- In a sum what is missing counts for nothing. -/
theorem sum_filterMap {α : Type*} (value? : α → Option ℕ) (list : List α) :
    (list.filterMap value?).sum = (list.map fun a => (value? a).getD 0).sum := by
  induction list with
  | nil => rfl
  | cons a list ih => cases h : value? a <;> simp [h, ih]

namespace Contract

variable (contract : Contract) (capacity : ℕ)

/-- The reply to a datagram as a buffer cuts it. -/
def answer? (datagram : Payload) : Option Payload :=
  contract.reply? (datagram.take capacity)

/-- The counters of a server that got these datagrams and has answered all of them. -/
def ledger (datagrams : List Payload) : Counters where
  received := datagrams.length
  echoed := datagrams.countP fun datagram => (contract.answer? capacity datagram).isSome
  droppedEmpty := datagrams.countP fun datagram => (contract.answer? capacity datagram).isNone
  bytesEchoed := ((datagrams.filterMap (contract.answer? capacity)).map List.length).sum
  receiveErrors := 0
  sendErrors := 0

variable {contract capacity} {datagrams : List Payload} {datagram reply : Payload}

/-- A datagram without a reply is received and dropped. -/
theorem ledger_append_of_none (hanswer : contract.answer? capacity datagram = none) :
    contract.ledger capacity (datagrams ++ [datagram]) =
      { contract.ledger capacity datagrams with
        received := (contract.ledger capacity datagrams).received + 1
        droppedEmpty := (contract.ledger capacity datagrams).droppedEmpty + 1 } := by
  simp [ledger, List.countP_append, hanswer]

/-- A datagram with a reply is received and echoed. -/
theorem ledger_append_of_some (hanswer : contract.answer? capacity datagram = some reply) :
    contract.ledger capacity (datagrams ++ [datagram]) =
      { contract.ledger capacity datagrams with
        received := (contract.ledger capacity datagrams).received + 1
        echoed := (contract.ledger capacity datagrams).echoed + 1
        bytesEchoed := (contract.ledger capacity datagrams).bytesEchoed + reply.length } := by
  simp [ledger, List.countP_append, hanswer]

/-- A reply has the bytes of the datagram that the buffer has room for; without a reply there are
none. -/
theorem length_answer? (contract : Contract) (capacity : ℕ) (datagram : Payload) :
    ((contract.answer? capacity datagram).map List.length).getD 0 =
      min datagram.length capacity := by
  cases hanswer : contract.answer? capacity datagram with
  | some reply =>
    simp [contract.length_of_reply?_eq_some hanswer, Nat.min_comm]
  | none =>
    have hempty := ((contract.reply?_eq_none_iff _).mp hanswer).1
    have hlength := congrArg List.length hempty
    rw [List.length_take, List.length_nil, Nat.min_comm] at hlength
    simp [hlength]

/-- The bytes that were sent back are those that the buffer had room for. -/
theorem bytesEchoed_ledger (contract : Contract) (capacity : ℕ) (datagrams : List Payload) :
    (contract.ledger capacity datagrams).bytesEchoed =
      (datagrams.map fun datagram => min datagram.length capacity).sum := by
  simp only [ledger, List.map_filterMap, sum_filterMap, contract.length_answer?]

/-- Every datagram is echoed or dropped. -/
theorem echoed_add_droppedEmpty_ledger (contract : Contract) (capacity : ℕ)
    (datagrams : List Payload) :
    (contract.ledger capacity datagrams).echoed +
      (contract.ledger capacity datagrams).droppedEmpty = datagrams.length := by
  simp only [ledger]
  rw [List.length_eq_countP_add_countP fun datagram => (contract.answer? capacity datagram).isSome]
  simp only [Bool.not_eq_true, Option.isSome_eq_false_iff, Bool.decide_eq_true]

/-- With room for a byte, only the empty datagrams are dropped, and only where the contract says
so. -/
theorem droppedEmpty_ledger (contract : Contract) (hcapacity : 1 ≤ capacity)
    (datagrams : List Payload) :
    (contract.ledger capacity datagrams).droppedEmpty =
      if contract.emptyPolicy = .drop then datagrams.countP (·.isEmpty) else 0 := by
  have hnone : ∀ datagram : Payload, (contract.answer? capacity datagram).isNone =
      (datagram.isEmpty && decide (contract.emptyPolicy = .drop)) := by
    intro datagram
    rw [answer?, contract.reply?_take hcapacity, Option.isNone_map, Bool.eq_iff_iff]
    simp [contract.reply?_eq_none_iff]
  simp only [ledger]
  rw [funext hnone]
  split_ifs with hpolicy
  · simp [hpolicy]
  · simp [hpolicy]

end Contract

namespace Endpoint

/-- A server with this capacity and this contract whose counters are the ledger of the datagrams
`served`. -/
structure Keeps (contract : Contract) (capacity : ℕ) (served : List Payload)
    (endpoint : Endpoint) : Prop where
  /-- The buffer has its capacity. -/
  capacity_eq : endpoint.capacity = capacity
  /-- The contract is kept. -/
  contract_eq : endpoint.responder.contract = contract
  /-- The counters are the ledger. -/
  counters_eq : endpoint.counters = contract.ledger capacity served

variable {endpoint : Endpoint} {contract : Contract} {capacity : ℕ} {served : List Payload}

/-- The server has served nothing yet. -/
theorem keeps_endpoint (config : Server.Config) :
    config.endpoint.Keeps config.contract config.bufferSize [] :=
  ⟨rfl, rfl, rfl⟩

/-- A server that serves one more datagram has the ledger of one more. -/
theorem Keeps.serve (hkeeps : endpoint.Keeps contract capacity served) (datagram : Payload) :
    (endpoint.serve datagram).2.Keeps contract capacity (served ++ [datagram]) := by
  obtain ⟨rfl, rfl, hcounters⟩ := hkeeps
  refine ⟨endpoint.capacity_serve datagram, endpoint.contract_serve datagram, ?_⟩
  rw [Endpoint.counters] at hcounters ⊢
  unfold Endpoint.serve
  cases hanswer : endpoint.responder.contract.answer? endpoint.capacity datagram with
  | none =>
    rw [Contract.ledger_append_of_none hanswer, ← hcounters, Responder.receive_of_none hanswer]
  | some reply =>
    rw [Contract.ledger_append_of_some hanswer, ← hcounters, Responder.receive_of_some hanswer]
    rfl

end Endpoint

end DatagramEcho

import DatagramEcho.Proofs.Client.Passage
import DatagramEcho.Proofs.Server.Endpoint

/-!
# Runs against a server

A server sends at most one reply to a datagram, and a client takes at most one datagram in an
exchange. So no reply is left over when an exchange ends, and each exchange finds the server as
the first one did, its counters apart.

* `Link.AtRest`: a server is at the other end and nothing is on its way.
* `served`: the result of an exchange with a server at rest.
* `steady_atRest`: exchanges over such links have the result `served`, whatever went before.
-/

namespace DatagramEcho

/-- A server with the buffer size `capacity` and the contract `contract` is at the other end, and no
datagram is on its way to the client. -/
def Link.AtRest (capacity : ℕ) (contract : Contract) (link : Link) : Prop :=
  link.queue = [] ∧
    ∃ endpoint, link.peer = .serving endpoint ∧ endpoint.capacity = capacity ∧
      endpoint.responder.contract = contract

/-- A server that has served nothing yet is at rest. -/
theorem Link.atRest_endpoint (server : Server.Config) :
    Link.AtRest server.bufferSize server.contract { peer := .serving server.endpoint } :=
  ⟨rfl, server.endpoint, rfl, rfl, rfl⟩

namespace Client

variable {config : Config} {capacity : ℕ} {contract : Contract}

/-- The result of an exchange with a server at rest. -/
def served (config : Config) (capacity : ℕ) (contract : Contract) (index : ℕ) (payload : Payload) :
    Except Halt Exchange :=
  if payload.length ≤ maxPayloadSize then
    if config.Refuses payload then .error (.failure (.transport index .receive .zeroTimeout))
    else verdict config index payload (contract.reply? (payload.take capacity))
  else
    .error (.failure (.transport index .send .messageTooLong))

section Served

variable {index : ℕ} {payload : Payload}

/-- A payload that is too long for the transport is not sent. -/
theorem served_of_lt_length (hlength : maxPayloadSize < payload.length) :
    served config capacity contract index payload =
      .error (.failure (.transport index .send .messageTooLong)) := by
  rw [served, if_neg (Nat.not_le_of_gt hlength)]

/-- A payload whose wait is refused is sent and then given up. -/
theorem served_of_refuses (hlength : payload.length ≤ maxPayloadSize)
    (hrefuses : config.Refuses payload) :
    served config capacity contract index payload =
      .error (.failure (.transport index .receive .zeroTimeout)) := by
  rw [served, if_pos hlength, if_pos hrefuses]

/-- Otherwise the client judges what the server sends back. -/
theorem served_of_not_refuses (hlength : payload.length ≤ maxPayloadSize)
    (hwaits : ¬ config.Refuses payload) :
    served config capacity contract index payload =
      verdict config index payload (contract.reply? (payload.take capacity)) := by
  rw [served, if_pos hlength, if_neg hwaits]

end Served

section Exchange

variable (index : ℕ) {payload : Payload} {link : Link}

/-- An exchange with a server at rest has the result `served`. If its wait is not refused, it leaves
the server at rest. -/
theorem exchange_atRest (hrest : Link.AtRest capacity contract link) :
    (exchange config index payload link).result = served config capacity contract index payload ∧
      (¬ config.Refuses payload →
        Link.AtRest capacity contract (exchange config index payload link).link) := by
  obtain ⟨hqueue, endpoint, hpeer, rfl, rfl⟩ := hrest
  by_cases hlength : payload.length ≤ maxPayloadSize
  · have hsend := link.send_of_length_le hlength
    rw [hpeer, hqueue] at hsend
    by_cases hwaits : config.Refuses payload
    · rw [served_of_refuses hlength hwaits]
      exact ⟨result_exchange_of_refuses hwaits hsend, fun hnot => absurd hwaits hnot⟩
    · obtain ⟨hresult, hlink⟩ :=
        exchange_of_not_refuses index hwaits hsend (by simp [Peer.answer])
      rw [served_of_not_refuses hlength hwaits, hresult, hlink]
      refine ⟨by simp [Peer.answer, Option.head?_toList], fun _ =>
        ⟨?_, (endpoint.serve payload).2, rfl, ?_, ?_⟩⟩
      · -- of at most one reply nothing is left once the oldest datagram is taken
        simp only [Peer.answer, List.nil_append]
        cases (endpoint.serve payload).1 <;> rfl
      · exact endpoint.capacity_serve payload
      · exact endpoint.contract_serve payload
  · have hlong := Nat.lt_of_not_le hlength
    rw [exchange_of_send_eq_error (link.send_of_lt_length hlong), served_of_lt_length hlong]
    exact ⟨rfl, fun _ => ⟨hqueue, endpoint, hpeer, rfl, rfl⟩⟩

/-- An exchange with a server at rest that succeeds leaves the server at rest. -/
theorem atRest_of_exchange_eq_ok (hrest : Link.AtRest capacity contract link) {entry : Exchange}
    (hok : (exchange config index payload link).result = .ok entry) :
    Link.AtRest capacity contract (exchange config index payload link).link :=
  (exchange_atRest index hrest).2 (not_refuses_of_exchange_eq_ok hok)

end Exchange

/-- A server is at rest after every exchange with it that succeeds, and what went before does not
matter. -/
theorem steady_atRest :
    Steady config (Link.AtRest capacity contract) (served config capacity contract) where
  result index _ hrest := (exchange_atRest index hrest).1
  link index _ hrest hok := atRest_of_exchange_eq_ok index hrest hok

/-- In a run against a server that succeeds, every entry of the report was foretold. -/
theorem forall₂_served_of_ok {index : ℕ} {script : Script} {link : Link} {report : Report}
    (hrest : Link.AtRest capacity contract link)
    (hok : (runFrom config index script link).result = .ok report) :
    List.Forall₂ (fun payload entry => ∃ index,
      served config capacity contract index payload = .ok entry) script report.exchanges := by
  induction script generalizing index link report with
  | nil => cases hok; exact .nil
  | cons payload script ih =>
    obtain ⟨first, later, rfl, hfirst, hlater⟩ := exists_of_runFrom_cons_eq_ok hok
    have hserved := (exchange_atRest index hrest).1.symm.trans hfirst
    exact .cons ⟨index, hserved⟩ (ih (atRest_of_exchange_eq_ok index hrest hfirst) hlater)

end Client

end DatagramEcho

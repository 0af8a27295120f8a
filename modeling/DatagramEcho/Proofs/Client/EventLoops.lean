import DatagramEcho.Proofs.Client.Passage
import DatagramEcho.Proofs.Server.Session

/-!
# Runs and event loops

A run talks to a server as an endpoint, which serves one datagram after the other. A server that is
bound runs an event loop, whose steps the run does not see. Both come to the same: the endpoint
keeps the ledger of what it got, and an event loop that has served the same datagrams has counted
the same and answers the next one alike.

* `Link.Kept`: the server at the other end keeps the ledger of what it got. A run keeps it, whatever
  its end.
* `Link.Realizes`: the server at the other end does what an event loop does.
* `realizes_run`: it does so at every point of every run.
-/

namespace DatagramEcho

/-- A server is at the other end whose counters are the ledger of what it got. -/
def Link.Kept (contract : Contract) (capacity : ℕ) (link : Link) : Prop :=
  ∃ endpoint, link.peer = .serving endpoint ∧ endpoint.Keeps contract capacity link.requests

namespace Link

/-- The datagrams that came over a link, all from one sender. -/
def parcels (link : Link) (sender : ℕ) : List Server.Parcel :=
  link.requests.map (Server.Parcel.mk sender)

/-- The server at the other end does what the event loop of `server` does. Let the loop have served
what came over the link, whoever sent it. Then it has counted the same, and it sends to one datagram
more what the link's peer sends. It can always get that far. -/
structure Realizes (server : Server.Config) (link : Link) : Prop where
  /-- The loop can serve what came over the link. -/
  reached : ∀ sender, ∃ service, server.Reaches service ∧ service.AtRest (link.parcels sender)
  /-- The loop has counted the same. -/
  counters : ∀ sender service, server.Reaches service → service.AtRest (link.parcels sender) →
    link.peer.counters? = some service.responder.counters
  /-- The loop sends the same. -/
  answers : ∀ sender payload service next, server.Reaches service →
    service.AtRest (link.parcels sender) → server.Reaches next →
    next.AtRest (link.parcels sender ++ [⟨sender, payload⟩]) →
    next.replies = service.replies ++ (link.peer.answer payload).1.map (Server.Parcel.mk sender)

variable {contract : Contract} {capacity : ℕ} {link sent : Link} {payload : Payload}

/-- A server that has served nothing yet keeps the empty ledger. -/
theorem kept_endpoint (server : Server.Config) :
    Kept server.contract server.bufferSize { peer := .serving server.endpoint } :=
  ⟨server.endpoint, rfl, Endpoint.keeps_endpoint server⟩

/-- A payload that is sent is served and entered in the ledger. -/
theorem Kept.send (hkept : link.Kept contract capacity) (hsend : link.send payload = .ok sent) :
    sent.Kept contract capacity := by
  obtain ⟨endpoint, hpeer, hkeeps⟩ := hkept
  rw [link.send_of_length_le (length_le_of_send_eq_ok hsend), hpeer] at hsend
  cases hsend
  exact ⟨(endpoint.serve payload).2, rfl, hkeeps.serve payload⟩

/-- A server that keeps its ledger does what its event loop does. -/
theorem Kept.realizes {server : Server.Config}
    (hkept : link.Kept server.contract server.bufferSize) : link.Realizes server := by
  obtain ⟨endpoint, hpeer, hkeeps⟩ := hkept
  refine ⟨fun sender => server.exists_reaches_atRest _, fun sender service hreaches hrest => ?_,
    fun sender payload service next hreaches hrest hnext hlater => ?_⟩
  · have hcounters := (hreaches.settled hrest).2
    rw [Contract.ledgerOf, parcels, List.map_map] at hcounters
    simp only [Function.comp_def, List.map_id'] at hcounters
    rw [hpeer, Peer.counters?, hkeeps.counters_eq, hcounters]
  -- one datagram more adds to the replies what it is answered with
  · have hanswer : (link.peer.answer payload).1 =
        (server.contract.answer? server.bufferSize payload).toList := by
      have hreply := endpoint.fst_serve payload
      rw [hkeeps.contract_eq, hkeeps.capacity_eq] at hreply
      rw [hpeer, Contract.answer?, ← hreply]
      rfl
    rw [(hnext.settled hlater).1, (hreaches.settled hrest).1, hanswer]
    cases hreply : server.contract.answer? server.bufferSize payload with
    | none =>
      rw [Contract.replies_append_of_none hreply, Option.toList_none, List.map_nil,
        List.append_nil]
    | some reply =>
      rw [Contract.replies_append_of_some hreply, Option.toList_some, List.map_singleton]

end Link

namespace Client

variable {config : Config} {contract : Contract} {capacity : ℕ} {link : Link}

/-- An exchange keeps the ledger of the server, whatever its result. -/
theorem kept_exchange (index : ℕ) (payload : Payload) (hkept : link.Kept contract capacity) :
    (exchange config index payload link).link.Kept contract capacity := by
  cases hsend : link.send payload with
  | error fault =>
    rw [exchange_of_send_eq_error hsend]
    exact hkept
  | ok sent =>
    rw [exchange_of_send_eq_ok hsend]
    obtain ⟨endpoint, hpeer, hkeeps⟩ := hkept.send hsend
    refine ⟨endpoint, (sent.peer_await _ _).trans hpeer, ?_⟩
    rw [sent.requests_await]
    exact hkeeps

/-- A run keeps the ledger of the server, whatever its result. -/
theorem kept_runFrom (index : ℕ) (script : Script) (hkept : link.Kept contract capacity) :
    (runFrom config index script link).link.Kept contract capacity := by
  induction script generalizing index link with
  | nil => exact hkept
  | cons payload script ih =>
    have hnext : (exchange config index payload link).link.Kept contract capacity :=
      kept_exchange index payload hkept
    cases hfirst : (exchange config index payload link).result with
    | error halt =>
      rw [runFrom_cons_of_error hfirst]
      exact hnext
    | ok first =>
      rw [runFrom_cons_of_ok hfirst]
      exact ih (index + 1) hnext

/-- At every point of a run the server does what its event loop does. -/
theorem realizes_run (config : Config) (server : Server.Config) (script : Script) :
    (run config script { peer := .serving server.endpoint }).link.Realizes server :=
  (kept_runFrom 0 script (Link.kept_endpoint server)).realizes

end Client

end DatagramEcho

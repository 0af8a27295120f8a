import DatagramEcho.Proofs.Client.EventLoops
import DatagramEcho.Proofs.Client.Served
import DatagramEcho.Proofs.Client.Trace
import Mathlib.Algebra.Order.BigOperators.Group.List
import Mathlib.Algebra.Order.Group.Nat
import Mathlib.Data.List.Forall2

/-!
# Two accounts of one run

The report of a client and the counters of its server are kept apart from each other. Both count the
payloads that were sent. However a run ends, its result tells how many these are, and what the
server counted follows from them. If the run succeeds, the report counts the same.

* `payloadsSent`: how many payloads were sent in a run with a given result.
* `requests_run`: these are the payloads that the peer got.
* `report_of_ok`: what the report of a run that succeeds counts.
* `run_reconciles`: the counters after a run, and the report next to them.
-/

namespace DatagramEcho

namespace Client

/-- How many payloads were sent in a run that ended early. -/
def Halt.payloadsSent : Halt → ℕ
  | .failure (.transport index .send _) => index
  | .failure other => (other.index?.map (· + 1)).getD 0
  | .stalled index => index + 1

/-- How many payloads of a script were sent in a run with this result. -/
def payloadsSent (script : Script) : Except Halt Report → ℕ
  | .ok _ => script.length
  | .error halt => halt.payloadsSent

section Requests

variable {config : Config} {index : ℕ} {payload : Payload} {script : Script} {link : Link}
  {halt : Halt}

/-- Once a payload is sent, its exchange goes on to a wait. -/
theorem phasesAfterSend_ne_nil (index : ℕ) (expectation : Expectation) (arrival : Arrival) :
    phasesAfterSend index expectation arrival ≠ [] := by
  cases expectation <;> cases arrival <;> simp [phasesAfterSend]

/-- A wait that ends the run comes after the payload was sent. -/
theorem payloadsSent_of_settle_eq_error {arrival : Arrival}
    (herror : settle config index payload arrival = .error halt) :
    halt.payloadsSent = index + 1 := by
  have haborts := aborts_of_settle_eq_error herror
  generalize hentered : Phase.sending index :: _ = entered at haborts
  cases haborts with
  -- a run that could not send has not come to a wait
  | unsent fault => exact absurd (List.cons.inj hentered).2 (phasesAfterSend_ne_nil _ _ _)
  | _ => rfl

/-- An exchange that fails has either sent its payload, or it has not and says so. -/
theorem requests_exchange_of_error
    (herror : (exchange config index payload link).result = .error halt) :
    halt.payloadsSent = index ∧ (exchange config index payload link).link.requests = link.requests ∨
      halt.payloadsSent = index + 1 ∧
        (exchange config index payload link).link.requests = link.requests ++ [payload] := by
  cases hsend : link.send payload with
  | error fault =>
    rw [exchange_of_send_eq_error hsend] at herror ⊢
    cases herror
    exact .inl ⟨rfl, rfl⟩
  | ok sent =>
    rw [exchange_of_send_eq_ok hsend] at herror ⊢
    refine .inr ⟨payloadsSent_of_settle_eq_error herror, ?_⟩
    rw [sent.requests_await]
    exact Link.requests_of_send_eq_ok hsend

/-- A run that ends early has sent the payloads up to the one that it names, and this one too unless
it could not be sent. -/
theorem requests_runFrom_of_error
    (herror : (runFrom config index script link).result = .error halt) :
    ∃ count ≤ script.length, halt.payloadsSent = index + count ∧
      (runFrom config index script link).link.requests = link.requests ++ script.take count := by
  induction script generalizing index link with
  | nil => cases herror
  | cons payload script ih =>
    rcases cases_of_runFrom_cons_eq_error herror with hfirst | ⟨first, hfirst, hlater⟩
    -- the exchange that fails may or may not have sent its payload; those before it all have
    · rw [runFrom_cons_of_error hfirst]
      rcases requests_exchange_of_error hfirst with ⟨hsent, hrequests⟩ | ⟨hsent, hrequests⟩
      · exact ⟨0, Nat.zero_le _, hsent, by simpa using hrequests⟩
      · exact ⟨1, by simp, hsent, by simpa using hrequests⟩
    · obtain ⟨count, hcount, hsent, hrequests⟩ := ih hlater
      rw [runFrom_cons_of_ok hfirst]
      refine ⟨count + 1, by simpa using hcount, by omega, ?_⟩
      simp only [hrequests, requests_exchange_of_ok hfirst]
      rw [List.append_assoc, List.singleton_append, List.take_succ_cons]

/-- Whoever the peer is, it got the payloads that the result of the run says were sent, each once
and in order. -/
theorem requests_run (config : Config) (script : Script) (peer : Peer) :
    let course := run config script { peer }
    payloadsSent script course.result ≤ script.length ∧
      course.link.requests = script.take (payloadsSent script course.result) := by
  intro course
  cases hresult : course.result with
  | ok report =>
    refine ⟨le_rfl, ?_⟩
    rw [payloadsSent, List.take_length]
    exact (phases_runFrom_of_ok hresult).2
  | error halt =>
    obtain ⟨count, hcount, hsent, hrequests⟩ := requests_runFrom_of_error hresult
    rw [Nat.zero_add] at hsent
    rw [payloadsSent, hsent]
    exact ⟨hcount, hrequests⟩

end Requests

section Report

variable {config : Config} {contract : Contract} {capacity index : ℕ} {payload : Payload}
  {script : Script} {entry : Exchange} {report : Report}

/-- What an exchange that succeeds enters in the report is what it sent and what it found, cut to
the buffer. -/
theorem eq_of_verdict_eq_ok {next? : Option Payload}
    (hok : verdict config index payload next? = .ok entry) :
    entry.sentLength = payload.length ∧
      entry.receivedLength = next?.map fun reply => min reply.length config.bufferSize := by
  cases hreply : config.contract.reply? payload with
  | none =>
    cases next? with
    | none => rw [verdict_silence_none hreply] at hok; cases hok; exact ⟨rfl, rfl⟩
    | some datagram => rw [verdict_silence_some hreply] at hok; cases hok
  | some expected =>
    cases next? with
    | none =>
      cases htimeout : config.timeout with
      | none => rw [verdict_reply_none_stalled htimeout hreply] at hok; cases hok
      | some waited => rw [verdict_reply_none htimeout hreply] at hok; cases hok
    | some datagram =>
      rw [verdict_reply_some hreply] at hok
      split at hok
      · cases hok
        rw [List.length_take, Nat.min_comm]
        exact ⟨rfl, rfl⟩
      · cases hok

/-- What an exchange with a server at rest enters in the report is what it sent and the answer to
it. -/
theorem eq_of_served_eq_ok (hok : served config capacity contract index payload = .ok entry) :
    entry.sentLength = payload.length ∧
      entry.receivedLength = (contract.answer? capacity payload).map fun reply =>
        min reply.length config.bufferSize := by
  unfold served at hok
  split_ifs at hok
  exact eq_of_verdict_eq_ok hok

/-- The entries of a report are about the payloads of the script and the answers to them. -/
theorem entries_of_ok {server : Server.Config}
    (hok : (run config script { peer := .serving server.endpoint }).result = .ok report) :
    report.exchanges.map (·.sentLength) = script.map List.length ∧
      report.exchanges.map (·.receivedLength) = script.map fun payload =>
        (server.contract.answer? server.bufferSize payload).map fun reply =>
          min reply.length config.bufferSize := by
  have hserved := (forall₂_served_of_ok (Link.atRest_endpoint server) hok).flip
  have hentries := hserved.imp fun entry payload hentry => eq_of_served_eq_ok hentry.choose_spec
  constructor
  · rw [← List.forall₂_eq_eq_eq, List.forall₂_map_left_iff, List.forall₂_map_right_iff]
    exact hentries.imp fun entry payload hentry => hentry.1
  · rw [← List.forall₂_eq_eq_eq, List.forall₂_map_left_iff, List.forall₂_map_right_iff]
    exact hentries.imp fun entry payload hentry => hentry.2

/-- The bytes received are those that both buffers had room for. -/
theorem bytesReceived_of_ok {server : Server.Config}
    (hok : (run config script { peer := .serving server.endpoint }).result = .ok report) :
    report.bytesReceived =
      (script.map fun payload =>
        min payload.length (min server.bufferSize config.bufferSize)).sum := by
  have hreceived := congrArg (List.map (Option.getD · 0)) (entries_of_ok hok).2
  rw [List.map_map, List.map_map] at hreceived
  have hlength : ∀ payload, (((server.contract.answer? server.bufferSize payload).map fun reply =>
      min reply.length config.bufferSize).getD 0) =
      min payload.length (min server.bufferSize config.bufferSize) := by
    intro payload
    rw [← Nat.min_assoc, ← server.contract.length_answer?]
    cases server.contract.answer? server.bufferSize payload <;> simp
  rw [Report.bytesReceived, ← List.sum_eq_foldr, sum_filterMap]
  refine (congrArg List.sum hreceived).trans ?_
  simp only [Function.comp_def, hlength]

/-- If a run succeeds, its report counts what the ledger of the whole script counts. -/
theorem report_of_ok {server : Server.Config}
    (hok : (run config script { peer := .serving server.endpoint }).result = .ok report) :
    let ledger := server.contract.ledger server.bufferSize script
    report.exchanges.length = ledger.received ∧
      report.exchanges.countP (·.receivedLength.isSome) = ledger.echoed ∧
      report.bytesSent = (script.map List.length).sum ∧
      report.bytesReceived ≤ ledger.bytesEchoed ∧
      (server.bufferSize ≤ config.bufferSize → report.bytesReceived = ledger.bytesEchoed) := by
  intro ledger
  obtain ⟨hsent, hreceived⟩ := entries_of_ok hok
  have hbytesReceived := bytesReceived_of_ok hok
  have hbytesEchoed := server.contract.bytesEchoed_ledger server.bufferSize script
  refine ⟨?_, ?_, ?_, ?_, fun hsize => ?_⟩
  · have hentries := congrArg List.length hsent
    rw [List.length_map, List.length_map] at hentries
    exact hentries
  · have hreplies := congrArg (List.countP Option.isSome) hreceived
    rw [List.countP_map, List.countP_map] at hreplies
    refine hreplies.trans ?_
    simp only [ledger, Contract.ledger, Function.comp_def, Option.isSome_map]
  · rw [Report.bytesSent, ← List.sum_eq_foldr, hsent]
  · rw [hbytesReceived, hbytesEchoed]
    refine List.sum_le_sum fun payload _ => ?_
    omega
  · rw [hbytesReceived, hbytesEchoed, Nat.min_eq_left hsize]

end Report

/-- However a run ends, its result tells how many payloads were sent. The server got these, and its
counters are those of these payloads and of no others, whatever event loop it runs. If the run
succeeds, its report has an entry for each datagram that the server received and a reply for each
that it echoed. It has received no more bytes than were sent back, and all of them if the buffer of
the client is not the smaller one. -/
theorem run_reconciles (client : Config) (server : Server.Config)
    (hserver : ValidBufferSize server.bufferSize) (script : Script) :
    let course := run client script { peer := .serving server.endpoint }
    let count := payloadsSent script course.result
    ∃ counters, course.link.peer.counters? = some counters ∧
      course.link.requests = script.take count ∧
      counters.received = count ∧
      counters.echoed + counters.droppedEmpty = count ∧
      counters.droppedEmpty = (if server.contract.emptyPolicy = .drop then
        (script.take count).countP (·.isEmpty) else 0) ∧
      counters.bytesEchoed =
        ((script.take count).map fun payload => min payload.length server.bufferSize).sum ∧
      counters.receiveErrors = 0 ∧ counters.sendErrors = 0 ∧
      (∀ sender service, server.Reaches service →
        service.AtRest ((script.take count).map fun payload => ⟨sender, payload⟩) →
        service.responder.counters = counters) ∧
      ∀ report, course.result = .ok report →
        report.exchanges.length = counters.received ∧
        report.exchanges.countP (·.receivedLength.isSome) = counters.echoed ∧
        report.bytesSent = (script.map List.length).sum ∧
        report.bytesReceived = (script.map fun payload =>
          min payload.length (min server.bufferSize client.bufferSize)).sum ∧
        report.bytesReceived ≤ counters.bytesEchoed ∧
        (server.bufferSize ≤ client.bufferSize →
          report.bytesReceived = counters.bytesEchoed) := by
  intro course count
  obtain ⟨hcount, hrequests⟩ : count ≤ script.length ∧ course.link.requests = script.take count :=
    requests_run client script (.serving server.endpoint)
  obtain ⟨endpoint, hpeer, hkeeps⟩ : course.link.Kept server.contract server.bufferSize :=
    kept_runFrom 0 script (Link.kept_endpoint server)
  have hcounters := hkeeps.counters_eq
  rw [hrequests] at hcounters
  have hlength : (script.take count).length = count := List.length_take_of_le hcount
  refine ⟨endpoint.counters, by rw [hpeer, Peer.counters?], hrequests, ?_, ?_, ?_, ?_, ?_, ?_, ?_,
    fun report hreport => ?_⟩
  · rw [hcounters, Contract.ledger, hlength]
  · rw [hcounters, Contract.echoed_add_droppedEmpty_ledger, hlength]
  · rw [hcounters, server.contract.droppedEmpty_ledger hserver.1]
  · rw [hcounters, Contract.bytesEchoed_ledger]
  · rw [hcounters, Contract.ledger]
  · rw [hcounters, Contract.ledger]
  · intro sender service hreaches hrest
    rw [(hreaches.settled hrest).2, hcounters, Contract.ledgerOf, List.map_map]
    simp only [Function.comp_def, List.map_id']
  -- on success nothing of the script was left unsent
  · have hall : script.take count = script := by
      simp only [count, hreport, payloadsSent, List.take_length]
    rw [hall] at hcounters
    obtain ⟨hentries, hreplies, hsent, hle, heq⟩ := report_of_ok hreport
    rw [hcounters]
    exact ⟨hentries, hreplies, hsent, bytesReceived_of_ok hreport, hle, heq⟩

/-- A client that waits in vain for an empty reply after one that both buffers have cut. The second
payload is counted on both sides, and the third one on neither. -/
theorem run_reconciles_timeout :
    let client := { Config.standard with bufferSize := 1, contract := ⟨.echo, .identity⟩ }
    let server := { Server.Config.standard with bufferSize := 2, contract := ⟨.drop, .identity⟩ }
    let course := run client [[1, 2, 3], [], [4]] { peer := .serving server.endpoint }
    ValidBufferSize server.bufferSize ∧
      course.result = .error (.failure (.timeout 1 (.ofMilliseconds 2000))) ∧
      ∃ counters, course.link.peer.counters? = some counters ∧ counters.received = 2 ∧
        counters.echoed = 1 ∧ counters.droppedEmpty = 1 ∧ counters.bytesEchoed = 2 := by
  intro client server course
  have hserver : ValidBufferSize server.bufferSize := by decide
  have hresult : course.result = .error (.failure (.timeout 1 (.ofMilliseconds 2000))) := rfl
  obtain ⟨counters, hcounters, -, hreceived, hbalance, hdropped, hbytes, -⟩ :=
    run_reconciles client server hserver [[1, 2, 3], [], [4]]
  have hone : counters.droppedEmpty = 1 := hdropped
  have htwo : counters.echoed + counters.droppedEmpty = 2 := hbalance
  exact ⟨hserver, hresult, counters, hcounters, hreceived, by omega, hone, hbytes⟩

end Client

end DatagramEcho

import DatagramEcho.Proofs.Server.EventLoops
import DatagramEcho.Server.Session

/-!
# Whole sessions

A server serves its senders one datagram at a time, and nothing but its counters survives from one
datagram to the next. So what a sender finds after a send is the answer to that send, whoever else
has sent what before, and no reply is left for anybody when the session ends.

* `Session.run_of_keeps`: the replies found and the ledger of the server, after any history.
* `Config.Reaches`: where the event loop of a server can bring its service.
* `Config.Settles`: wherever it has come to, it can go on to serve all that has arrived.
* `session_account`: a session with a fresh server. Its event loop gets to no other replies and
  counters, and it does get there.
-/

namespace DatagramEcho

/-- With room for a byte, an answer is the transformed beginning of the datagram, and an empty
datagram is answered as the contract says. -/
theorem Contract.answer?_eq (contract : Contract) {capacity : ℕ} (hcapacity : 1 ≤ capacity)
    (datagram : Payload) :
    contract.answer? capacity datagram =
      if datagram = [] then (if contract.emptyPolicy = .echo then some [] else none)
      else some (contract.transform.apply (datagram.take capacity)) := by
  rw [answer?, contract.reply?_take hcapacity]
  cases datagram with
  | nil => cases hpolicy : contract.emptyPolicy <;> simp [reply?, hpolicy]
  | cons byte rest => simp [reply?, Transform.apply_take]

namespace Server

namespace Session

variable {session : Session} {contract : Contract} {capacity : ℕ} {served : List Payload}

/-- Where no reply is in flight, a sender finds the answer to what it has just sent. -/
theorem collect_deliver (hempty : session.inFlight = []) (send : Send)
    (hlength : send.payload.length ≤ maxPayloadSize) :
    (session.deliver send).collect send.sender =
      (session.endpoint.responder.contract.answer? session.endpoint.capacity send.payload,
        { endpoint := (session.endpoint.serve send.payload).2, inFlight := [] }) := by
  have hreply := session.endpoint.fst_serve send.payload
  simp only [deliver, if_pos hlength, hempty, List.nil_append, hreply]
  cases hanswer : session.endpoint.responder.contract.answer? session.endpoint.capacity
      send.payload with
  | none =>
    rw [Contract.answer?] at hanswer
    simp [collect, hanswer]
  | some reply =>
    rw [Contract.answer?] at hanswer
    simp [collect, hanswer]

/-- Every send of a session finds its own answer, the server keeps its ledger, and no reply is left
in flight. -/
theorem run_of_keeps (session : Session) (hkeeps : session.endpoint.Keeps contract capacity served)
    (hempty : session.inFlight = []) {sends : List Send}
    (hlength : ∀ send ∈ sends, send.payload.length ≤ maxPayloadSize) :
    (session.run sends).1 = sends.map (fun send => contract.answer? capacity send.payload) ∧
      (session.run sends).2.endpoint.Keeps contract capacity (served ++ sends.map (·.payload)) ∧
      (session.run sends).2.inFlight = [] := by
  -- each send leaves no reply in flight and a ledger that is longer by one
  induction sends generalizing session served with
  | nil =>
    refine ⟨rfl, ?_, hempty⟩
    rw [List.map_nil, List.append_nil]
    exact hkeeps
  | cons send sends ih =>
    have hfirst := collect_deliver hempty send (hlength send List.mem_cons_self)
    rw [hkeeps.capacity_eq, hkeeps.contract_eq] at hfirst
    have hrest : ∀ later ∈ sends, later.payload.length ≤ maxPayloadSize := fun later hlater =>
      hlength later (List.mem_cons_of_mem send hlater)
    obtain ⟨hfound, hledger, hdone⟩ := ih
      ⟨(session.endpoint.serve send.payload).2, []⟩ (hkeeps.serve send.payload) rfl hrest
    simp only [run, hfirst, hfound, List.map_cons, true_and]
    rw [List.append_assoc, List.singleton_append] at hledger
    exact ⟨hledger, hdone⟩

end Session

/-- The datagram of a send, with its sender. -/
def Send.parcel (send : Send) : Parcel :=
  ⟨send.sender, send.payload⟩

/-- Where the event loop of a server can bring its service, whether or not its sends block for a
while. -/
def Config.Reaches (config : Config) (service : Service) : Prop :=
  match config.eventLoop with
  | .readiness => ∃ mayBlock control, ReadinessLoop.Reachable mayBlock config.bufferSize
      config.endpoint.responder ⟨control, service⟩
  | .selecting => ∃ control, SelectingLoop.Reachable config.bufferSize config.endpoint.responder
      ⟨control, service⟩

/-- Wherever the event loop of a server has come to, its next steps can lead to where all that has
arrived is served, unless the shutdown was requested. -/
def Config.Settles (config : Config) : Prop :=
  match config.eventLoop with
  | .readiness => ∀ mayBlock state,
    ReadinessLoop.Reachable mayBlock config.bufferSize config.endpoint.responder state →
      state.service.stopRequested = false →
        ∃ service, Relation.ReflTransGen (ReadinessLoop.Step mayBlock) state ⟨.polling, service⟩ ∧
          service.AtRest state.service.arrived
  | .selecting => ∀ state,
    SelectingLoop.Reachable config.bufferSize config.endpoint.responder state →
      state.service.stopRequested = false →
        ∃ service, Relation.ReflTransGen SelectingLoop.Step state ⟨.selecting, service⟩ ∧
          service.AtRest state.service.arrived

namespace Config

variable {config : Config} {service : Service} {parcels : List Parcel}

/-- Whatever loop is run, it keeps the accounts. -/
theorem Reaches.lawful (hreaches : config.Reaches service) :
    service.Lawful config.contract config.bufferSize := by
  unfold Reaches at hreaches
  split at hreaches
  · obtain ⟨mayBlock, control, hreachable⟩ := hreaches
    exact hreachable.invariant.lawful
  · obtain ⟨control, hreachable⟩ := hreaches
    exact hreachable.invariant.lawful

/-- A service at rest has sent all replies, and its counters are the ledger of all that arrived. -/
theorem Reaches.settled (hreaches : config.Reaches service) (hrest : service.AtRest parcels) :
    service.replies = config.contract.replies config.bufferSize parcels ∧
      service.responder.counters = config.contract.ledgerOf config.bufferSize parcels := by
  have hlawful := hreaches.lawful
  have htaken : service.taken = parcels := by
    rw [← hrest.arrived_eq, hlawful.arrived_eq, hrest.queue_eq, List.append_nil]
  rw [← htaken]
  exact hlawful.settled hrest.handling_eq

/-- Whatever loop is run and wherever it has come to, it can go on to serve all that has arrived,
unless the shutdown was requested. -/
theorem settles (config : Config) : config.Settles := by
  unfold Settles
  split
  · exact fun mayBlock state hreachable => hreachable.exists_atRest
  · exact fun state hreachable => hreachable.exists_atRest

/-- Whatever loop is run and whatever arrives, all of it can be served. -/
theorem exists_reaches_atRest (config : Config) (parcels : List Parcel) :
    ∃ service, config.Reaches service ∧ service.AtRest parcels := by
  have hsettles := config.settles
  unfold Settles at hsettles
  unfold Reaches
  -- the datagrams may have been waiting when the loop started
  let first : Service := .start config.bufferSize config.endpoint.responder parcels false
  cases hloop : config.eventLoop with
  | readiness =>
    rw [hloop] at hsettles
    have hstart : ReadinessLoop.Reachable false config.bufferSize config.endpoint.responder
      ⟨.polling, first⟩ := .start parcels false
    obtain ⟨service, hsteps, hrest⟩ := hsettles false _ hstart rfl
    exact ⟨service, ⟨false, .polling, hstart.trans hsteps⟩, hrest⟩
  | selecting =>
    rw [hloop] at hsettles
    have hstart : SelectingLoop.Reachable config.bufferSize config.endpoint.responder
      ⟨.selecting, first⟩ := .start parcels false
    obtain ⟨service, hsteps, hrest⟩ := hsettles _ hstart rfl
    exact ⟨service, ⟨.selecting, hstart.trans hsteps⟩, hrest⟩

/-- What is found in a session with a fresh server, and its counters after it. -/
theorem session_eq (config : Config) {sends : List Send}
    (hlength : ∀ send ∈ sends, send.payload.length ≤ maxPayloadSize) :
    config.session sends =
      (sends.map fun send => config.contract.answer? config.bufferSize send.payload,
        config.contract.ledger config.bufferSize (sends.map (·.payload))) := by
  obtain ⟨hfound, hledger, -⟩ := Session.run_of_keeps ⟨config.endpoint, []⟩
    (Endpoint.keeps_endpoint config) rfl hlength
  simp only [session, hfound, hledger.counters_eq, List.nil_append]

/-- The replies of an event loop are those found in the session, each with its sender. -/
theorem replies_eq_session (config : Config) {sends : List Send}
    (hlength : ∀ send ∈ sends, send.payload.length ≤ maxPayloadSize) :
    config.contract.replies config.bufferSize (sends.map Send.parcel) =
      (sends.zip (config.session sends).1).filterMap fun (send, found) =>
        found.map fun reply => ⟨send.sender, reply⟩ := by
  rw [config.session_eq hlength, ← List.map_prod_left_eq_zip, List.filterMap_map,
    Contract.replies, List.filterMap_map]
  rfl

end Config

/-- In a session with a fresh server every sender finds the answer to what it has just sent: the
transformed beginning of a datagram that is not empty, and for an empty one what the contract says.
The counters afterwards follow from the datagrams alone. Whatever event loop is run gets to the same
replies and counters when it has served everything. It can serve everything wherever it has come to,
unless the shutdown was requested. -/
theorem session_account (config : Config) (sends : List Send)
    (hvalid : ValidBufferSize config.bufferSize)
    (hlength : ∀ send ∈ sends, send.payload.length ≤ maxPayloadSize) :
    let found := (config.session sends).1
    let counters := (config.session sends).2
    found = sends.map (fun send =>
        if send.payload = [] then (if config.contract.emptyPolicy = .echo then some [] else none)
        else some (config.contract.transform.apply (send.payload.take config.bufferSize))) ∧
      counters.received = sends.length ∧
      counters.droppedEmpty =
        (if config.contract.emptyPolicy = .drop then sends.countP (·.payload.isEmpty) else 0) ∧
      counters.echoed = counters.received - counters.droppedEmpty ∧
      counters.echoed = found.countP (·.isSome) ∧
      counters.bytesEchoed =
        (sends.map fun send => min send.payload.length config.bufferSize).sum ∧
      counters.receiveErrors = 0 ∧ counters.sendErrors = 0 ∧ config.Settles ∧
      (∃ service, config.Reaches service ∧ service.AtRest (sends.map Send.parcel)) ∧
      ∀ service, config.Reaches service → service.AtRest (sends.map Send.parcel) →
        service.responder.counters = counters ∧
          service.replies = (sends.zip found).filterMap fun (send, found) =>
            found.map fun reply => ⟨send.sender, reply⟩ := by
  have hcapacity : 1 ≤ config.bufferSize := hvalid.1
  intro found counters
  have hfound : found = sends.map fun send =>
      config.contract.answer? config.bufferSize send.payload := by
    simp only [found, config.session_eq hlength]
  have hcounters : counters =
      config.contract.ledger config.bufferSize (sends.map (·.payload)) := by
    simp only [counters, config.session_eq hlength]
  have hbalance := config.contract.echoed_add_droppedEmpty_ledger config.bufferSize
    (sends.map (·.payload))
  rw [← hcounters, List.length_map] at hbalance
  have hreceived : counters.received = sends.length := by
    rw [hcounters, Contract.ledger, List.length_map]
  refine ⟨?_, hreceived, ?_, by omega, ?_, ?_, ?_, ?_, config.settles, ?_, ?_⟩
  · simp only [hfound, config.contract.answer?_eq hcapacity]
  · rw [hcounters, config.contract.droppedEmpty_ledger hcapacity, List.countP_map]
    rfl
  · rw [hcounters, hfound, List.countP_map, Contract.ledger, List.countP_map]
    rfl
  · rw [hcounters, Contract.bytesEchoed_ledger, List.map_map]
    rfl
  · rw [hcounters, Contract.ledger]
  · rw [hcounters, Contract.ledger]
  · exact config.exists_reaches_atRest _
  · intro service hreaches hrest
    obtain ⟨hreplies, hledger⟩ := hreaches.settled hrest
    refine ⟨?_, hreplies.trans (config.replies_eq_session hlength)⟩
    rw [hledger, hcounters, Contract.ledgerOf, List.map_map]
    rfl

/-- Two senders and a server that complements two bytes of each datagram and drops the empty one. -/
theorem session_account_of_two_senders :
    let config := { Config.standard with bufferSize := 2, contract := ⟨.drop, .invert⟩ }
    let sends : List Send := [⟨1, [0, 1, 2]⟩, ⟨2, []⟩, ⟨2, [255]⟩]
    ValidBufferSize config.bufferSize ∧ (∀ send ∈ sends, send.payload.length ≤ maxPayloadSize) ∧
      (config.session sends).1 = [some [255, 254], none, some [0]] ∧
      (config.session sends).2.echoed = 2 ∧ (config.session sends).2.bytesEchoed = 3 := by
  intro config sends
  have hvalid : ValidBufferSize config.bufferSize := by decide
  have hlength : ∀ send ∈ sends, send.payload.length ≤ maxPayloadSize := by decide
  obtain ⟨hfound, -, -, -, hechoed, hbytes, -⟩ := session_account config sends hvalid hlength
  refine ⟨hvalid, hlength, hfound.trans (by decide), ?_, hbytes.trans (by decide)⟩
  rw [hechoed, hfound]
  decide

end Server

end DatagramEcho

import DatagramEcho.Proofs.Client.Passage
import DatagramEcho.Proofs.Server.Endpoint

/-!
# Runs with complemented replies

What is sent back under one of the two transforms is, byte by byte, the complement of what is sent
back under the other. A complement changes no length, keeps different bytes different and commutes
with a cut. So neither a buffer nor the check of a reply can tell the two apart, and a run whose
replies are complemented as a whole takes the same course.

Whatever sends, expects or carries replies has a `complement`, in which the bytes of the replies are
complemented and nothing else. Each operation of a run commutes with it, or does not see it.

* `checkReply_complement`: the check of a reply and its report do not see the complement.
* `Link.send_complement` and `Link.await_complement`: what a complemented link does.
* `exchange_complement` and `runFrom_complement`: exchanges and runs, whoever is at the other end.
* `run_inverted`: a client that expects complements, and a scripted peer that sends them.
-/

namespace DatagramEcho

namespace Payload

/-- Complements differ where the payloads themselves do. -/
theorem firstDifference?_complement (a b : Payload) :
    firstDifference? (complement a) (complement b) = firstDifference? a b := by
  induction a generalizing b with
  | nil => cases b <;> rfl
  | cons x a ih =>
    cases b with
    | nil => rfl
    | cons y b => simp only [complement_cons, firstDifference?, UInt8.not_inj, ih]

end Payload

/-- The check of a reply sees lengths and differences only, and a complement keeps both. -/
theorem checkReply_complement (capacity : ℕ) (expected received : Payload) :
    checkReply capacity expected.complement received.complement =
      checkReply capacity expected received := by
  unfold checkReply
  simp only [Payload.length_complement, ← Payload.complement_take,
    Payload.firstDifference?_complement]

/-- The check of a reply comes to the same under every transform. -/
theorem Transform.checkReply_apply (transform : Transform) (capacity : ℕ)
    (expected received : Payload) :
    checkReply capacity (transform.apply expected) (transform.apply received) =
      checkReply capacity expected received := by
  cases transform with
  | identity => rfl
  | invert => exact checkReply_complement capacity expected received

/-! ## Both sides of a link -/

/-- The transform whose replies are the complements. -/
def Transform.complement : Transform → Transform
  | identity => invert
  | invert => identity

theorem Transform.apply_complement (transform : Transform) (payload : Payload) :
    transform.complement.apply payload = (transform.apply payload).complement := by
  cases transform with
  | identity => rfl
  | invert => exact (Payload.complement_complement payload).symm

/-- What a client waits for, with the bytes of a reply complemented. -/
def Expectation.complement : Expectation → Expectation
  | reply expected => reply expected.complement
  | silence => silence

namespace Contract

variable (contract : Contract) (payload : Payload)

/-- The contract with complemented replies. -/
def complement : Contract :=
  { contract with transform := contract.transform.complement }

/-- A reply is due under both contracts or under neither. -/
theorem reply?_complement :
    contract.complement.reply? payload = (contract.reply? payload).map .complement := by
  cases payload with
  -- the empty reply is its own complement
  | nil => cases hpolicy : contract.emptyPolicy <;> simp [reply?, complement, hpolicy]
  | cons byte rest =>
    exact congrArg some (contract.transform.apply_complement (byte :: rest))

theorem expectation_complement :
    contract.complement.expectation payload = (contract.expectation payload).complement := by
  rw [expectation, expectation, reply?_complement]
  cases contract.reply? payload <;> rfl

end Contract

namespace Responder

variable (responder : Responder) (payload : Payload)

/-- The responder with complemented replies. It has counted the same. -/
def complement : Responder :=
  { responder with contract := responder.contract.complement }

theorem receive_complement :
    responder.complement.receive payload =
      ((responder.receive payload).1.map .complement,
        (responder.receive payload).2.complement) := by
  cases hplain : responder.contract.reply? payload with
  | none =>
    have hreply : responder.complement.contract.reply? payload = none := by
      rw [complement, Contract.reply?_complement, hplain, Option.map_none]
    rw [receive_of_none hplain, receive_of_none hreply]
    rfl
  | some reply =>
    have hreply : responder.complement.contract.reply? payload = some reply.complement := by
      rw [complement, Contract.reply?_complement, hplain, Option.map_some]
    rw [receive_of_some hplain, receive_of_some hreply]
    rfl

end Responder

namespace Endpoint

variable (endpoint : Endpoint) (datagram : Payload)

/-- The server with complemented replies. -/
def complement : Endpoint :=
  { endpoint with responder := endpoint.responder.complement }

theorem serve_complement :
    endpoint.complement.serve datagram =
      ((endpoint.serve datagram).1.map .complement, (endpoint.serve datagram).2.complement) := by
  unfold serve
  simp only [complement, Responder.receive_complement]
  obtain ⟨reply, responder⟩ := endpoint.responder.receive (datagram.take endpoint.capacity)
  cases reply with
  | none => rfl
  | some reply =>
    -- the bytes sent are counted by the length of the reply
    simp only [Option.map_some, Payload.length_complement]
    rfl

end Endpoint

namespace Peer

/-- The peer with complemented replies. -/
def complement : Peer → Peer
  | serving endpoint => serving endpoint.complement
  | scripted answers => scripted (answers.map (·.map Payload.complement))
  | absent => absent

/-- A peer with complemented replies answers with the complements. -/
theorem answer_complement (peer : Peer) (datagram : Payload) :
    peer.complement.answer datagram =
      ((peer.answer datagram).1.map Payload.complement, (peer.answer datagram).2.complement) := by
  cases peer with
  | serving endpoint =>
    simp only [complement, answer, endpoint.serve_complement]
    cases (endpoint.serve datagram).1 <;> rfl
  | scripted answers =>
    cases answers with
    | nil => rfl
    | cons first later =>
      -- a complement fits the transport if the datagram does
      have hfits : (first.map Payload.complement).filter (·.length ≤ maxPayloadSize) =
          (first.filter (·.length ≤ maxPayloadSize)).map Payload.complement := by
        simp [List.filter_map, Function.comp_def]
      exact congrArg (·, _) hfits
  | absent => rfl

end Peer

/-- What ends a wait, with the bytes of a datagram complemented. -/
def Arrival.complement : Arrival → Arrival
  | datagram payload => datagram payload.complement
  | expired => expired
  | failed fault => failed fault

namespace Link

variable (link : Link)

/-- The link with complemented replies, those on their way included. The requests are the same. -/
def complement : Link where
  peer := link.peer.complement
  queue := link.queue.map .complement
  requests := link.requests

theorem send_complement (payload : Payload) :
    link.complement.send payload = (link.send payload).map complement := by
  unfold send
  split_ifs
  · simp [complement, Peer.answer_complement, Except.map]
  · rfl

/-- A receive cuts the complement as it would have cut the datagram. -/
theorem receive_complement (capacity : ℕ) :
    link.complement.receive capacity =
      ((link.receive capacity).1.complement, (link.receive capacity).2.complement) := by
  obtain ⟨peer, queue, requests⟩ := link
  cases queue with
  | nil => cases peer <;> rfl
  | cons datagram later =>
    have hcut := datagram.complement_take capacity
    cases peer <;> simp [receive, complement, Peer.complement, Arrival.complement, hcut]

/-- A wait brings the complement of what it would have brought. -/
theorem await_complement (patience : Option TimeSpan) (capacity : ℕ) :
    link.complement.await patience capacity =
      ((link.await patience capacity).1.complement,
        (link.await patience capacity).2.complement) := by
  unfold await
  split_ifs
  · rfl
  · rw [receive_complement]

end Link

namespace Client

/-- The client that expects replies under `transform`, and is otherwise told the same. -/
def Config.under (config : Config) (transform : Transform) : Config :=
  { config with contract := { config.contract with transform } }

/-- The client that expects complemented replies. -/
def Config.complement (config : Config) : Config :=
  config.under config.contract.transform.complement

/-- The attempt over the complemented link. -/
def Attempt.complement (attempt : Attempt) : Attempt :=
  { attempt with link := attempt.link.complement }

/-- The run over the complemented link. -/
def Run.complement (run : Run) : Run :=
  { run with link := run.link.complement }

section Exchange

variable (config : Config) (index : ℕ) (expectation : Expectation) (arrival : Arrival)
  (payload : Payload) (link : Link)

theorem Config.patience_complement :
    config.complement.patience expectation.complement = config.patience expectation := by
  cases expectation <;> rfl

theorem Config.bufferSize_complement : config.complement.bufferSize = config.bufferSize := rfl

theorem Config.expectation_complement :
    config.complement.contract.expectation payload =
      (config.contract.expectation payload).complement :=
  config.contract.expectation_complement payload

/-- A complement is judged by the complement of what was expected as it would have been. -/
theorem judge_complement :
    judge config.complement index expectation.complement arrival.complement =
      judge config index expectation arrival := by
  cases expectation with
  | silence =>
    -- of a datagram that should not have come only the length is told
    cases arrival with
    | datagram received => simp [judge, judgeSilence, Expectation.complement, Arrival.complement]
    | expired => rfl
    | failed fault => rfl
  | reply expected =>
    cases arrival with
    | datagram received =>
      simp [judge, judgeReply, Expectation.complement, Arrival.complement,
        Config.bufferSize_complement, checkReply_complement]
    | expired => rfl
    | failed fault => rfl

theorem phasesAfterSend_complement :
    phasesAfterSend index expectation.complement arrival.complement =
      phasesAfterSend index expectation arrival := by
  cases expectation <;> cases arrival <;> rfl

theorem settle_complement :
    settle config.complement index payload arrival.complement =
      settle config index payload arrival := by
  rw [settle, settle, Config.expectation_complement, judge_complement]

theorem exchange_complement :
    exchange config.complement index payload link.complement =
      (exchange config index payload link).complement := by
  have hsent := link.send_complement payload
  cases hsend : link.send payload with
  | error fault =>
    rw [hsend] at hsent
    rw [exchange_of_send_eq_error hsend, exchange_of_send_eq_error hsent]
    rfl
  | ok sent =>
    rw [hsend] at hsent
    rw [exchange_of_send_eq_ok hsend, exchange_of_send_eq_ok hsent]
    simp only [Config.expectation_complement, Config.patience_complement,
      Config.bufferSize_complement, Link.await_complement, phasesAfterSend_complement,
      settle_complement]
    rfl

end Exchange

/-- Let a client expect complemented replies, and let all that is sent to it be complemented. Then
its run from any index on goes as it went, whoever is at the other end. -/
theorem runFrom_complement (config : Config) (index : ℕ) (script : Script) (link : Link) :
    runFrom config.complement index script link.complement =
      (runFrom config index script link).complement := by
  -- induction on the script; what an exchange leaves is again a complemented link
  induction script generalizing index link with
  | nil => rfl
  | cons payload script ih =>
    have hexchange := exchange_complement config index payload link
    have hresult := congrArg Attempt.result hexchange
    cases hfirst : (exchange config index payload link).result with
    | error halt =>
      rw [runFrom_cons_of_error hfirst, runFrom_cons_of_error (hresult.trans hfirst), hexchange]
      rfl
    | ok first =>
      rw [runFrom_cons_of_ok hfirst, runFrom_cons_of_ok (hresult.trans hfirst), hexchange]
      simp only [Attempt.complement, ih]
      rfl

/-- Whether a client gets a socket, and which one, is settled without regard to the transform. -/
theorem connect_under (host : Host) (config : Config) (transform : Transform) :
    connect host (config.under transform) =
      (connect host config).map fun client =>
        { client with config := client.config.under transform } := by
  -- a connection is made from the buffer size and two addresses, and none of them changes
  have hsize : (config.under transform).bufferSize = config.bufferSize := rfl
  have hbind : (config.under transform).bind = config.bind := rfl
  have htarget : (config.under transform).target = config.target := rfl
  unfold connect
  rw [hsize, hbind, htarget]
  split_ifs
  · cases host.bind config.bind with
    | error fault => rfl
    | ok address =>
      simp only
      cases host.connect address config.target <;> rfl
  · rfl

/-- No verdict depends on the transform. If expected and received bytes are both transformed, the
check of a reply comes to the same, with the same report at the same index. So a client that expects
complements, faced with a scripted peer that sends complements, connects, sends, goes through its
phases and ends as the client that expects its own bytes back does with the peer that sends them. -/
theorem run_inverted :
    (∀ (transform : Transform) (expected received : Payload),
      (∀ capacity, checkReply capacity (transform.apply expected) (transform.apply received) =
        checkReply capacity expected received) ∧
      ∀ (config : Config) (index : ℕ),
        judgeReply config index (transform.apply expected) (.datagram (transform.apply received)) =
          judgeReply config index expected (.datagram received)) ∧
    ∀ (config : Config) (script : Script) (answers : List (List Payload)),
      let complements := answers.map (·.map Payload.complement)
      let inverted := run (config.under .invert) script { peer := .scripted complements }
      let plain := run (config.under .identity) script { peer := .scripted answers }
      inverted.link.requests = plain.link.requests ∧ inverted.phases = plain.phases ∧
        inverted.result = plain.result ∧
        ∀ host, (connect host (config.under .invert)).map Connected.address =
          (connect host (config.under .identity)).map Connected.address := by
  refine ⟨fun transform expected received => ⟨fun capacity => ?_, fun config index => ?_⟩,
    fun config script answers => ?_⟩
  · exact transform.checkReply_apply capacity expected received
  · simp only [judgeReply, transform.checkReply_apply, Transform.length_apply]
  · intro complements inverted plain
    -- the complement of the one client is the other one, and the same holds of the peers
    have hrun : inverted = plain.complement :=
      runFrom_complement (config.under .identity) 0 script { peer := .scripted answers }
    rw [hrun]
    refine ⟨rfl, rfl, rfl, fun host => ?_⟩
    rw [connect_under, connect_under]
    cases connect host config <;> rfl

/-- Complements that go wrong in their second byte are reported as the bytes themselves would be. -/
example :
    (run (Config.standard.under .invert) [[1, 2, 3]]
        { peer := .scripted [[[254, 0, 252]]] }).result =
      .error (.failure (.validation 0 ⟨3, 3, some 1⟩)) :=
  rfl

end Client

end DatagramEcho

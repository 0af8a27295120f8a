import DatagramEcho.Proofs.Client.Passage

/-!
# Runs against a scripted peer

A scripted peer may answer a request with several datagrams or with none. What an exchange does not
take stays in the queue for the exchanges after it. Seen from the client the answers are one stream,
the concatenation of all lists up to the current request, and every exchange that is due a reply
takes the next datagram of it. None is lost, skipped or used twice.

* `Contract.due`: the number of replies that are due to a script.
* `Link.Delivers answers sent taken`: the state of the stream when `sent` requests were answered and
  `taken` datagrams were taken. `delivers_runFrom` is the invariant of a run.
* `run_scripted`: what an exchange makes of the stream.
-/

namespace DatagramEcho

namespace Contract

variable (contract : Contract)

/-- The number of replies that are due to a script. -/
def due (script : Script) : ℕ :=
  script.countP (contract.Expects ·)

/-- Each payload to which a reply is due adds one to the replies that are due. -/
theorem due_cons (payload : Payload) (script : Script) :
    contract.due (payload :: script) =
      (if contract.Expects payload then 1 else 0) + contract.due script := by
  simp [due, List.countP_cons, Nat.add_comm]

end Contract

/-- A scripted peer answers with its first list, as far as the transport can carry it. -/
theorem Peer.answer_scripted (answers : List (List Payload)) (payload : Payload) :
    (Peer.scripted answers).answer payload =
      ((answers.headD []).filter (·.length ≤ maxPayloadSize), .scripted answers.tail) := by
  cases answers <;> rfl

/-- The stream of `answers` has come as far as the first `sent` lists. Its first `taken` datagrams
were taken, and the others are on their way to the client in order. -/
structure Link.Delivers (answers : List (List Payload)) (sent taken : ℕ) (link : Link) : Prop where
  /-- The later lists are still to come. -/
  peer : link.peer = .scripted (answers.drop sent)
  /-- What was not taken is in the queue. -/
  queue : link.queue = (answers.take sent).flatten.drop taken
  /-- Nothing was taken that had not come. -/
  taken_le : taken ≤ (answers.take sent).flatten.length

namespace Link.Delivers

variable {answers : List (List Payload)} {sent taken : ℕ} {link next : Link} {payload : Payload}

/-- At the start nothing has come and nothing was taken. -/
theorem start : Link.Delivers answers 0 0 { peer := .scripted answers } :=
  ⟨rfl, rfl, Nat.le_refl 0⟩

/-- Somebody is at the other end. -/
theorem ne_absent (hdelivers : link.Delivers answers sent taken) : link.peer ≠ .absent := by
  rw [hdelivers.peer]
  simp

/-- A request brings the next list to the end of the queue. -/
theorem send (hdelivers : link.Delivers answers sent taken)
    (hanswers : ∀ answer ∈ answers, ∀ datagram ∈ answer, datagram.length ≤ maxPayloadSize)
    (hsend : link.send payload = .ok next) : next.Delivers answers (sent + 1) taken := by
  rw [link.send_of_length_le (length_le_of_send_eq_ok hsend), hdelivers.peer,
    Peer.answer_scripted] at hsend
  cases hsend
  -- no datagram of the next list is too long for the transport, so the peer sends all of it
  have hlist : ((answers.drop sent).headD []).filter (·.length ≤ maxPayloadSize) =
      answers[sent]?.toList.flatten := by
    rw [List.headD_eq_head?_getD, List.head?_drop]
    cases hnext : answers[sent]? with
    | none => rfl
    | some answer =>
      simpa using hanswers answer (List.mem_of_getElem? hnext)
  refine ⟨by rw [List.tail_drop], ?_, ?_⟩
  · simp only [hdelivers.queue, hlist]
    rw [List.take_add_one, List.flatten_append, List.drop_append_of_le_length hdelivers.taken_le]
  · rw [List.take_add_one, List.flatten_append, List.length_append]
    exact Nat.le_add_right_of_le hdelivers.taken_le

/-- The next datagram of the stream is at the head of the queue. -/
theorem head?_queue (hdelivers : link.Delivers answers sent taken) :
    link.queue.head? = (answers.take sent).flatten[taken]? := by
  rw [hdelivers.queue, List.head?_drop]

/-- Where a datagram is at the head of the queue, taking it advances the stream. -/
theorem take (hdelivers : link.Delivers answers sent taken) {datagram : Payload}
    (hnext : (answers.take sent).flatten[taken]? = some datagram) :
    Link.Delivers answers sent (taken + 1) { link with queue := link.queue.tail } := by
  refine ⟨hdelivers.peer, ?_, ?_⟩
  · simp only [hdelivers.queue, List.tail_drop]
  · exact (List.getElem?_eq_some_iff.mp hnext).1

/-- Where the stream has run dry, taking nothing changes nothing. -/
theorem take_nothing (hdelivers : link.Delivers answers sent taken)
    (hnext : (answers.take sent).flatten[taken]? = none) :
    Link.Delivers answers sent taken { link with queue := link.queue.tail } := by
  have hdry := List.drop_eq_nil_of_le (List.getElem?_eq_none_iff.mp hnext)
  refine ⟨hdelivers.peer, ?_, hdelivers.taken_le⟩
  simp only [hdelivers.queue, hdry, List.tail_nil]

end Link.Delivers

namespace Client

variable {config : Config} {answers : List (List Payload)} {sent taken index : ℕ} {link : Link}
  {payload : Payload} {before : Script}
  (hanswers : ∀ answer ∈ answers, ∀ datagram ∈ answer, datagram.length ≤ maxPayloadSize)

include hanswers

/-- An exchange whose wait is not refused finds the next datagram of the stream as it stands after
the request. -/
theorem result_exchange_of_delivers (hdelivers : link.Delivers answers sent taken)
    (hlength : payload.length ≤ maxPayloadSize) (hwaits : ¬ config.Refuses payload) :
    (exchange config index payload link).result =
      verdict config index payload (answers.take (sent + 1)).flatten[taken]? := by
  have hsend := link.send_of_length_le hlength
  have hnext := hdelivers.send hanswers hsend
  rw [result_exchange hwaits hsend hnext.ne_absent, hnext.head?_queue]

/-- An exchange that succeeds takes one datagram of the stream if a reply was due, else none. -/
theorem delivers_exchange (hdelivers : link.Delivers answers sent taken) {entry : Exchange}
    (hok : (exchange config index payload link).result = .ok entry) :
    (exchange config index payload link).link.Delivers answers (sent + 1)
      (taken + if config.contract.Expects payload then 1 else 0) := by
  have hwaits := not_refuses_of_exchange_eq_ok hok
  cases hsend : link.send payload with
  | error fault => rw [exchange_of_send_eq_error hsend] at hok; cases hok
  | ok reached =>
    have hnext := hdelivers.send hanswers hsend
    rw [result_exchange hwaits hsend hnext.ne_absent, hnext.head?_queue] at hok
    rw [link_exchange hwaits hsend hnext.ne_absent]
    cases hreply : config.contract.reply? payload with
    -- silence was due, so the exchange succeeded because there was nothing to take
    | none =>
      rw [if_neg ((config.contract.not_expects_iff payload).mpr hreply)]
      cases hfound : (answers.take (sent + 1)).flatten[taken]? with
      | none => exact hnext.take_nothing hfound
      | some datagram => rw [hfound, verdict_silence_some hreply] at hok; cases hok
    -- a reply was due, so the exchange succeeded on a datagram
    | some expected =>
      rw [if_pos ((config.contract.expects_iff payload).mpr ⟨expected, hreply⟩)]
      cases hfound : (answers.take (sent + 1)).flatten[taken]? with
      | some datagram => exact hnext.take hfound
      | none =>
        cases hwaited : config.timeout with
        | some waited => rw [hfound, verdict_reply_none hwaited hreply] at hok; cases hok
        | none => rw [hfound, verdict_reply_none_stalled hwaited hreply] at hok; cases hok

/-- In a run that succeeds all requests are answered, and one datagram is taken for each reply that
was due. -/
theorem delivers_runFrom (hdelivers : link.Delivers answers sent taken) {report : Report}
    (hok : (runFrom config index before link).result = .ok report) :
    (runFrom config index before link).link.Delivers answers (sent + before.length)
      (taken + config.contract.due before) := by
  -- induction on the script; what one exchange does to the counters is `delivers_exchange`
  induction before generalizing index link sent taken report with
  | nil => exact hdelivers
  | cons payload before ih =>
    obtain ⟨first, later, -, hfirst, hlater⟩ := exists_of_runFrom_cons_eq_ok hok
    have hnext := ih (delivers_exchange hanswers hdelivers hfirst) hlater
    rw [runFrom_cons_of_ok hfirst, List.length_cons, Contract.due_cons, ← Nat.add_assoc taken,
      Nat.add_comm before.length, ← Nat.add_assoc sent]
    exact hnext

/-- An exchange that a run comes to finds the datagram after those that were due so far. -/
theorem result_exchange_scripted {earlier : Report}
    (hbefore : (run config before { peer := .scripted answers }).result = .ok earlier)
    (hlength : payload.length ≤ maxPayloadSize) (hwaits : ¬ config.Refuses payload) :
    (exchange config before.length payload
        (run config before { peer := .scripted answers }).link).result =
      verdict config before.length payload
        (answers.take (before.length + 1)).flatten[config.contract.due before]? := by
  have hdelivers := delivers_runFrom hanswers Link.Delivers.start hbefore
  rw [Nat.zero_add, Nat.zero_add] at hdelivers
  exact result_exchange_of_delivers hanswers hdelivers hlength hwaits

/-- Before a run comes to an exchange, no more datagrams were due than have come. -/
theorem due_le_length_stream {earlier : Report}
    (hbefore : (run config before { peer := .scripted answers }).result = .ok earlier) :
    config.contract.due before ≤ (answers.take (before.length + 1)).flatten.length := by
  have hdelivers := delivers_runFrom hanswers Link.Delivers.start hbefore
  rw [Nat.zero_add, Nat.zero_add] at hdelivers
  rw [List.take_add_one, List.flatten_append, List.length_append]
  exact Nat.le_add_right_of_le hdelivers.taken_le

omit hanswers

/-- Let a client with a timeout face a scripted peer, and let its run get through the payloads
`before`. The answers to the requests up to the next one are a stream, of which the exchanges so
far have taken as many datagrams as replies were due to them. If a reply is due to the next
payload, the exchange checks the next datagram of the stream, as the client's buffer cuts it,
against that reply; it times out exactly if the stream has run dry. If silence is due, the exchange
succeeds exactly if the stream has run dry, and fails on its next datagram otherwise. Only where the
timeout is zero, the socket refuses the wait for a reply, and the stream is not looked at. The
timeout of a client that was configured is never zero (`timeout_ne_zero_of_load`). -/
theorem run_scripted (config : Config) {waited : TimeSpan} (htimeout : config.timeout = some waited)
    (answers : List (List Payload))
    (hanswers : ∀ answer ∈ answers, ∀ datagram ∈ answer, datagram.length ≤ maxPayloadSize)
    (before : Script) {earlier : Report}
    (hbefore : (run config before { peer := .scripted answers }).result = .ok earlier)
    (payload : Payload) (hlength : payload.length ≤ maxPayloadSize) :
    let passes := Passes config { peer := .scripted answers } before payload
    let failsAt := FailsAt config { peer := .scripted answers } before payload
    let index := before.length
    let stream := (answers.take (index + 1)).flatten
    let taken := config.contract.due before
    (config.contract.Expects payload → waited ≠ .zero →
      ∃ expected, config.contract.reply? payload = some expected ∧
        (failsAt (.timeout index waited) ↔ stream.length ≤ taken) ∧
        ∀ datagram, stream[taken]? = some datagram →
          let received := datagram.take config.bufferSize
          (checkReply config.bufferSize expected received = .ok () →
            passes ⟨index, payload.length, some received.length⟩) ∧
          ∀ mismatch, checkReply config.bufferSize expected received = .error mismatch →
            failsAt (.validation index mismatch)) ∧
    (config.contract.Expects payload → waited = .zero →
      failsAt (.transport index .receive .zeroTimeout)) ∧
    (¬ config.contract.Expects payload →
      ((∃ entry, passes entry) ↔ stream.length = taken) ∧
        (stream.length = taken → passes ⟨index, payload.length, none⟩) ∧
        ∀ datagram, stream[taken]? = some datagram →
          failsAt (.unexpectedReply index (datagram.take config.bufferSize).length)) := by
  have hcame := due_le_length_stream hanswers hbefore
  intro passes failsAt index stream taken
  simp only [passes, failsAt, passes_iff hbefore, failsAt_iff hbefore]
  refine ⟨fun hexpects hwaited => ?_, fun hexpects hzero => ?_, fun hexpects => ?_⟩
  · have hpatience : config.timeout ≠ some .zero := by simpa [htimeout] using hwaited
    rw [result_exchange_scripted hanswers hbefore hlength
      (Config.not_refuses_of_timeout_ne_zero hpatience)]
    obtain ⟨expected, hreply⟩ := (config.contract.expects_iff payload).mp hexpects
    refine ⟨expected, hreply, ?_, fun datagram hnext => ?_⟩
    · rw [verdict_eq_timeout_iff htimeout hreply, List.getElem?_eq_none_iff]
    · rw [show stream[taken]? = some datagram from hnext, verdict_reply_some hreply]
      refine ⟨fun hcheck => by rw [hcheck], fun mismatch hcheck => by rw [hcheck]⟩
  · have hrefuses : config.Refuses payload := ⟨htimeout.trans (congrArg some hzero), hexpects⟩
    exact result_exchange_of_refuses hrefuses (Link.send_of_length_le _ hlength)
  · have hreply := (config.contract.not_expects_iff payload).mp hexpects
    simp only [result_exchange_scripted hanswers hbefore hlength
      (Config.not_refuses_of_reply?_eq_none hreply)]
    -- the exchanges before took no more than had come, so a dry stream has the exact length
    have hdry : stream[taken]? = none ↔ stream.length = taken := by
      rw [List.getElem?_eq_none_iff]
      exact ⟨fun hle => Nat.le_antisymm hle hcame, Nat.le_of_eq⟩
    refine ⟨?_, fun hlength => ?_, fun datagram hnext => ?_⟩
    · rw [verdict_silence_ok_iff hreply]
      exact hdry
    · rw [show stream[taken]? = none from hdry.mpr hlength, verdict_silence_none hreply]
    · rw [show stream[taken]? = some datagram from hnext, verdict_silence_some hreply]

/-- A reply too many stays in the queue, and the next exchange takes it although the peer answers
nothing any more. -/
theorem run_scripted_surplus :
    Config.standard.timeout = some (.ofMilliseconds 2000) ∧
      (run Config.standard [[97]] { peer := .scripted [[[97], [98]]] }).result =
        .ok ⟨[⟨0, 1, some 1⟩]⟩ ∧
      Passes Config.standard { peer := .scripted [[[97], [98]]] } [[97]] [98] ⟨1, 1, some 1⟩ := by
  refine ⟨rfl, rfl, ?_⟩
  obtain ⟨expected, hreply, -, hnext⟩ := (run_scripted Config.standard rfl
    [[[97], [98]]] (by decide) [[97]] rfl [98] (by decide)).1 (by decide) (by decide)
  cases hreply
  exact (hnext [98] rfl).1 rfl

/-- Not every datagram of the stream is looked at. A client that is told to wait for no time at all
gives up although the right reply is on its way. And a client that cannot bind its socket has no
exchange at all. -/
theorem not_run_scripted_of_zero :
    let client := { Config.standard with timeout := some .zero }
    let elsewhere : SocketAddress := .v6 ⟨#v[0x2001, 0xdb8, 0, 0, 0, 0, 0, 1]⟩ 0 0
    client.timeout = some .zero ∧ client.contract.Expects [97] ∧
      client.contract.reply? [97] = some [97] ∧
      checkReply client.bufferSize [97] [97] = .ok () ∧
      FailsAt client { peer := .scripted [[[97]]] } [] [97] (.transport 0 .receive .zeroTimeout) ∧
      (¬ ∃ entry, Passes client { peer := .scripted [[[97]]] } [] [97] entry) ∧
      connect .isolated { Config.standard with bind := elsewhere } =
        .error (.bind elsewhere .addressNotAvailable) := by
  intro client elsewhere
  refine ⟨rfl, by decide, rfl, rfl, ⟨⟨{}, rfl⟩, fun after => rfl⟩, ?_, rfl⟩
  rintro ⟨entry, earlier, -, hpassed⟩
  cases hpassed

end Client

end DatagramEcho

import DatagramEcho.Client.Run
import DatagramEcho.Proofs.Contract

/-!
# Exchanges

An exchange sends one payload and then takes at most one datagram, the oldest one in the queue.
Where somebody is at the other end, its result depends on nothing but that datagram.

* `Link.await_of_ne_absent`: a wait takes the head of the queue, or expires on an empty queue.
* `Config.Refuses`: the socket refuses the wait for a reply, because it is to take no time at all.
* `verdict config index payload next?`: the result of an exchange that finds `next?` at the head of
  the queue, with one lemma for each combination of what is due and what is found.
* `exchange_of_send_eq_ok`: an exchange is a send, a wait and a verdict.
-/

namespace DatagramEcho

namespace Link

variable (link : Link) {payload : Payload} {patience : Option TimeSpan} {capacity : ℕ}

/-- A send that fits the transport reaches the peer, whose answers join the queue. -/
theorem send_of_length_le (hlength : payload.length ≤ maxPayloadSize) :
    link.send payload =
      .ok
        { peer := (link.peer.answer payload).2
          queue := link.queue ++ (link.peer.answer payload).1
          requests := link.requests ++ [payload] } := by
  rw [send, if_pos hlength]

/-- A send that is too long for the transport fails. -/
theorem send_of_lt_length (hlength : maxPayloadSize < payload.length) :
    link.send payload = .error .messageTooLong := by
  rw [send, if_neg (Nat.not_le_of_gt hlength)]

/-- What was sent fits the transport. -/
theorem length_le_of_send_eq_ok {link sent : Link} (hsend : link.send payload = .ok sent) :
    payload.length ≤ maxPayloadSize := by
  by_contra hlength
  rw [link.send_of_lt_length (Nat.lt_of_not_le hlength)] at hsend
  cases hsend

/-- What was sent is the last of what the peer got. -/
theorem requests_of_send_eq_ok {link sent : Link} (hsend : link.send payload = .ok sent) :
    sent.requests = link.requests ++ [payload] := by
  rw [link.send_of_length_le (Link.length_le_of_send_eq_ok hsend)] at hsend
  cases hsend
  rfl

/-- A wait for no time at all fails, and takes nothing from the queue. -/
theorem await_zero : link.await (some .zero) capacity = (.failed .zeroTimeout, link) := by
  rw [await, if_pos rfl]

/-- Where nobody is at the other end, every wait fails. -/
theorem await_of_absent (hpatience : patience ≠ some .zero) (hpeer : link.peer = .absent) :
    link.await patience capacity = (.failed .connectionRefused, link) := by
  rw [await, if_neg hpatience, receive, hpeer]

/-- A wait changes nothing but the queue. -/
theorem exists_await (patience : Option TimeSpan) (capacity : ℕ) :
    ∃ queue, (link.await patience capacity).2 = { link with queue } := by
  unfold await receive
  split_ifs
  · exact ⟨link.queue, rfl⟩
  · split
    · exact ⟨link.queue, rfl⟩
    · exact ⟨_, rfl⟩
    · exact ⟨link.queue, rfl⟩

/-- A wait changes nothing at the other end. -/
theorem peer_await (patience : Option TimeSpan) (capacity : ℕ) :
    (link.await patience capacity).2.peer = link.peer := by
  obtain ⟨queue, hawait⟩ := link.exists_await patience capacity
  rw [hawait]

/-- A wait brings nothing to the peer. -/
theorem requests_await (patience : Option TimeSpan) (capacity : ℕ) :
    (link.await patience capacity).2.requests = link.requests := by
  obtain ⟨queue, hawait⟩ := link.exists_await patience capacity
  rw [hawait]

/-- A wait that takes some time fails only where nobody is at the other end. -/
theorem eq_connectionRefused_of_await {fault : Fault} (hpatience : patience ≠ some .zero)
    (hfailed : (link.await patience capacity).1 = .failed fault) : fault = .connectionRefused := by
  rw [await, if_neg hpatience, receive] at hfailed
  split at hfailed <;> cases hfailed
  rfl

/-- A datagram that a wait brings was the oldest one on its way, cut to the buffer. -/
theorem exists_of_await_eq_datagram {received : Payload}
    (harrived : (link.await patience capacity).1 = .datagram received) :
    ∃ datagram later, link.queue = datagram :: later ∧ received = datagram.take capacity ∧
      (link.await patience capacity).2 = { link with queue := later } := by
  unfold await receive at harrived ⊢
  split_ifs at harrived ⊢
  split
  next hpeer => simp only [hpeer] at harrived; cases harrived
  next datagram later hqueue hpeer =>
    simp only [hqueue] at harrived
    cases harrived
    exact ⟨datagram, later, hqueue, rfl, rfl⟩
  next hqueue hpeer => simp only [hqueue] at harrived; cases harrived

end Link

/-- What a wait comes to that finds `next?` at the head of the queue. -/
def Arrival.ofNext (capacity : ℕ) : Option Payload → Arrival
  | some payload => .datagram (payload.take capacity)
  | none => .expired

/-- A wait takes the head of the queue, cut to the buffer, or expires on an empty queue. -/
theorem Link.await_of_ne_absent {link : Link} {patience : Option TimeSpan} {capacity : ℕ}
    (hpatience : patience ≠ some .zero) (hpeer : link.peer ≠ .absent) :
    link.await patience capacity =
      (.ofNext capacity link.queue.head?, { link with queue := link.queue.tail }) := by
  rw [await, if_neg hpatience]
  obtain ⟨peer, queue, requests⟩ := link
  cases queue <;> cases peer <;> first | exact absurd rfl hpeer | rfl

namespace Client

variable {config : Config}

namespace Config

/-- The wait for silence always takes some time. -/
theorem silenceWait_ne_zero (config : Config) : config.silenceWait ≠ .zero := by
  intro h
  have hnanoseconds := congrArg TimeSpan.nanoseconds h
  simp only [silenceWait, TimeSpan.zero, TimeSpan.ofMilliseconds] at hnanoseconds
  omega

end Config

/-- A reply to `payload` is due, and the client is told to wait for it for no time at all. A socket
refuses such a wait. -/
def Config.Refuses (config : Config) (payload : Payload) : Prop :=
  config.timeout = some .zero ∧ config.contract.Expects payload

instance (config : Config) (payload : Payload) : Decidable (config.Refuses payload) :=
  inferInstanceAs (Decidable (_ ∧ _))

namespace Config

variable {payload : Payload}

/-- The only wait for no time at all is a refused one. -/
theorem patience_eq_zero_iff :
    config.patience (config.contract.expectation payload) = some .zero ↔
      config.Refuses payload := by
  unfold Refuses
  cases hreply : config.contract.reply? payload with
  | none =>
    rw [config.contract.expectation_of_reply?_eq_none hreply, patience, Option.some_inj]
    have hexpects := (config.contract.not_expects_iff payload).mpr hreply
    exact iff_of_false config.silenceWait_ne_zero fun hrefuses => hexpects hrefuses.2
  | some expected =>
    rw [config.contract.expectation_of_reply?_eq_some hreply, patience]
    exact (and_iff_left ((config.contract.expects_iff payload).mpr ⟨expected, hreply⟩)).symm

/-- A client whose timeout is not zero has no wait refused. -/
theorem not_refuses_of_timeout_ne_zero (htimeout : config.timeout ≠ some .zero) :
    ¬ config.Refuses payload :=
  fun hrefuses => htimeout hrefuses.1

/-- No wait for silence is refused. -/
theorem not_refuses_of_reply?_eq_none (hreply : config.contract.reply? payload = none) :
    ¬ config.Refuses payload :=
  fun hrefuses => (config.contract.not_expects_iff payload).mpr hreply hrefuses.2

end Config

/-- The result of an exchange whose wait comes to `arrival`. -/
def settle (config : Config) (index : ℕ) (payload : Payload) (arrival : Arrival) :
    Except Halt Exchange :=
  (judge config index (config.contract.expectation payload) arrival).map fun received =>
    ⟨index, payload.length, received⟩

/-- The result of an exchange that finds `next?` at the head of the queue. -/
def verdict (config : Config) (index : ℕ) (payload : Payload) (next? : Option Payload) :
    Except Halt Exchange :=
  settle config index payload (.ofNext config.bufferSize next?)

section Verdict

variable {index : ℕ} {payload expected datagram : Payload}

/-- Where a reply is due, the datagram found is checked against it. -/
theorem verdict_reply_some (hreply : config.contract.reply? payload = some expected) :
    verdict config index payload (some datagram) =
      match checkReply config.bufferSize expected (datagram.take config.bufferSize) with
      | .ok () => .ok ⟨index, payload.length, some (datagram.take config.bufferSize).length⟩
      | .error mismatch => .error (.failure (.validation index mismatch)) := by
  rw [verdict, settle, config.contract.expectation_of_reply?_eq_some hreply]
  simp only [judge, judgeReply, Arrival.ofNext]
  cases checkReply config.bufferSize expected (datagram.take config.bufferSize) <;> rfl

/-- Where a reply is due and none is found, the timeout passes. -/
theorem verdict_reply_none {waited : TimeSpan} (htimeout : config.timeout = some waited)
    (hreply : config.contract.reply? payload = some expected) :
    verdict config index payload none = .error (.failure (.timeout index waited)) := by
  rw [verdict, settle, config.contract.expectation_of_reply?_eq_some hreply]
  simp only [judge, judgeReply, Arrival.ofNext, htimeout]
  rfl

/-- Where a reply is due and none is found, a client without a timeout waits forever. -/
theorem verdict_reply_none_stalled (htimeout : config.timeout = none)
    (hreply : config.contract.reply? payload = some expected) :
    verdict config index payload none = .error (.stalled index) := by
  rw [verdict, settle, config.contract.expectation_of_reply?_eq_some hreply]
  simp only [judge, judgeReply, Arrival.ofNext, htimeout]
  rfl

/-- Where silence is due, every datagram is one too many. -/
theorem verdict_silence_some (hreply : config.contract.reply? payload = none) :
    verdict config index payload (some datagram) =
      .error (.failure (.unexpectedReply index (datagram.take config.bufferSize).length)) := by
  rw [verdict, settle, config.contract.expectation_of_reply?_eq_none hreply]
  rfl

/-- Where silence is due and kept, the exchange succeeds. -/
theorem verdict_silence_none (hreply : config.contract.reply? payload = none) :
    verdict config index payload none = .ok ⟨index, payload.length, none⟩ := by
  rw [verdict, settle, config.contract.expectation_of_reply?_eq_none hreply]
  rfl

/-- Where a reply is due, only an empty queue makes the timeout pass. -/
theorem verdict_eq_timeout_iff {waited : TimeSpan} (htimeout : config.timeout = some waited)
    (hreply : config.contract.reply? payload = some expected) (next? : Option Payload) :
    verdict config index payload next? = .error (.failure (.timeout index waited)) ↔
      next? = none := by
  cases next? with
  | none => simp only [verdict_reply_none htimeout hreply]
  | some datagram =>
    rw [verdict_reply_some hreply]
    cases checkReply config.bufferSize expected (datagram.take config.bufferSize) <;> simp

/-- Where silence is due, only an empty queue lets the exchange succeed. -/
theorem verdict_silence_ok_iff (hreply : config.contract.reply? payload = none)
    (next? : Option Payload) :
    (∃ entry, verdict config index payload next? = .ok entry) ↔ next? = none := by
  cases next? with
  | none => simp [verdict_silence_none hreply]
  | some datagram => simp [verdict_silence_some hreply]

end Verdict

section Exchange

variable {index : ℕ} {payload : Payload} {link sent : Link}

/-- An exchange whose send fails ends there. -/
theorem exchange_of_send_eq_error {fault : Fault} (hsend : link.send payload = .error fault) :
    exchange config index payload link =
      ⟨[.sending index], link, .error (.failure (.transport index .send fault))⟩ := by
  simp only [exchange, hsend]

/-- An exchange whose send succeeds goes on to wait, with a patience that depends on what is due. -/
theorem exchange_of_send_eq_ok (hsend : link.send payload = .ok sent) :
    exchange config index payload link =
      let expectation := config.contract.expectation payload
      let arrived := sent.await (config.patience expectation) config.bufferSize
      { phases := .sending index :: phasesAfterSend index expectation arrived.1
        link := arrived.2
        result := settle config index payload arrived.1 } := by
  simp only [exchange, hsend]
  rfl

/-- An exchange with somebody at the other end, if its wait is not refused, takes the oldest
datagram. -/
theorem exchange_of_not_refuses (index : ℕ) (hwaits : ¬ config.Refuses payload)
    (hsend : link.send payload = .ok sent) (hpeer : sent.peer ≠ .absent) :
    (exchange config index payload link).result = verdict config index payload sent.queue.head? ∧
      (exchange config index payload link).link = { sent with queue := sent.queue.tail } := by
  have hpatience := mt Config.patience_eq_zero_iff.mp hwaits
  rw [exchange_of_send_eq_ok hsend]
  simp only [Link.await_of_ne_absent hpatience hpeer, and_true]
  rfl

/-- The result of an exchange with somebody at the other end. -/
theorem result_exchange (hwaits : ¬ config.Refuses payload)
    (hsend : link.send payload = .ok sent) (hpeer : sent.peer ≠ .absent) :
    (exchange config index payload link).result =
      verdict config index payload sent.queue.head? :=
  (exchange_of_not_refuses index hwaits hsend hpeer).1

/-- The link after an exchange with somebody at the other end. -/
theorem link_exchange (hwaits : ¬ config.Refuses payload)
    (hsend : link.send payload = .ok sent) (hpeer : sent.peer ≠ .absent) :
    (exchange config index payload link).link = { sent with queue := sent.queue.tail } :=
  (exchange_of_not_refuses index hwaits hsend hpeer).2

/-- An exchange whose wait is refused fails, whoever is at the other end. -/
theorem result_exchange_of_refuses (hrefuses : config.Refuses payload)
    (hsend : link.send payload = .ok sent) :
    (exchange config index payload link).result =
      .error (.failure (.transport index .receive .zeroTimeout)) := by
  rw [exchange_of_send_eq_ok hsend]
  simp only [Config.patience_eq_zero_iff.mpr hrefuses, Link.await_zero, settle]
  cases config.contract.expectation payload <;> rfl

/-- An exchange succeeds only if its wait is not refused. -/
theorem not_refuses_of_exchange_eq_ok {entry : Exchange}
    (hok : (exchange config index payload link).result = .ok entry) :
    ¬ config.Refuses payload := by
  intro hrefuses
  cases hsend : link.send payload with
  | error fault => rw [exchange_of_send_eq_error hsend] at hok; cases hok
  | ok sent => rw [result_exchange_of_refuses hrefuses hsend] at hok; cases hok

/-- An exchange fails in the transport after its send only if the wait does. -/
theorem eq_failed_of_settle_eq_transport {arrival : Arrival} {awaited : ℕ} {direction : Direction}
    {fault : Fault}
    (hfailed : settle config index payload arrival =
      .error (.failure (.transport awaited direction fault))) : arrival = .failed fault := by
  rw [settle] at hfailed
  generalize config.contract.expectation payload = expectation at hfailed
  cases expectation with
  | silence => cases arrival <;> cases hfailed; rfl
  | reply expected =>
    rw [judge] at hfailed
    cases arrival with
    | failed fault => cases hfailed; rfl
    | datagram received =>
      rw [judgeReply] at hfailed
      cases hcheck : checkReply config.bufferSize expected received <;>
        rw [hcheck] at hfailed <;> cases hfailed
    | expired =>
      rw [judgeReply] at hfailed
      cases htimeout : config.timeout <;> rw [htimeout] at hfailed <;> cases hfailed

/-- Where a reply is due, a wait lets the exchange succeed only if it brings one that passes the
check. -/
theorem exists_of_settle_eq_ok {arrival : Arrival} {entry : Exchange} {expected : Payload}
    (hreply : config.contract.reply? payload = some expected)
    (hok : settle config index payload arrival = .ok entry) :
    ∃ received, arrival = .datagram received ∧
      checkReply config.bufferSize expected received = .ok () := by
  rw [settle, config.contract.expectation_of_reply?_eq_some hreply, judge] at hok
  cases arrival with
  | datagram received =>
    rw [judgeReply] at hok
    cases hcheck : checkReply config.bufferSize expected received with
    | error mismatch => rw [hcheck] at hok; cases hok
    | ok => exact ⟨received, rfl, hcheck⟩
  | expired =>
    rw [judgeReply] at hok
    cases htimeout : config.timeout <;> rw [htimeout] at hok <;> cases hok
  | failed fault => cases hok

/-- Where a reply is due, an exchange succeeds only if it takes a datagram that passes the check. -/
theorem exists_of_exchange_eq_ok {entry : Exchange} {expected : Payload}
    (hreply : config.contract.reply? payload = some expected)
    (hok : (exchange config index payload link).result = .ok entry) :
    ∃ sent datagram later, link.send payload = .ok sent ∧ sent.queue = datagram :: later ∧
      checkReply config.bufferSize expected (datagram.take config.bufferSize) = .ok () ∧
      (exchange config index payload link).link = { sent with queue := later } := by
  cases hsend : link.send payload with
  | error fault => rw [exchange_of_send_eq_error hsend] at hok; cases hok
  | ok sent =>
    rw [exchange_of_send_eq_ok hsend] at hok ⊢
    obtain ⟨received, harrived, hcheck⟩ := exists_of_settle_eq_ok hreply hok
    obtain ⟨datagram, later, hqueue, rfl, hlink⟩ := sent.exists_of_await_eq_datagram harrived
    exact ⟨sent, datagram, later, rfl, hqueue, hcheck, hlink⟩

/-- The socket of a client with a timeout other than zero refuses no wait. -/
theorem result_exchange_ne_zeroTimeout (htimeout : config.timeout ≠ some .zero) (awaited : ℕ)
    (direction : Direction) :
    (exchange config index payload link).result ≠
      .error (.failure (.transport awaited direction .zeroTimeout)) := by
  intro hrefused
  cases hsend : link.send payload with
  | error fault =>
    rw [exchange_of_send_eq_error hsend] at hrefused
    by_cases hlength : payload.length ≤ maxPayloadSize
    · rw [link.send_of_length_le hlength] at hsend
      cases hsend
    · rw [link.send_of_lt_length (Nat.lt_of_not_le hlength)] at hsend
      cases hsend
      cases hrefused
  | ok sent =>
    rw [exchange_of_send_eq_ok hsend] at hrefused
    have hfailed := eq_failed_of_settle_eq_transport hrefused
    have hwaits : ¬ config.Refuses payload := Config.not_refuses_of_timeout_ne_zero htimeout
    have hpatience := mt Config.patience_eq_zero_iff.mp hwaits
    cases sent.eq_connectionRefused_of_await hpatience hfailed

/-- Only a client without a timeout waits forever. -/
theorem timeout_eq_none_of_exchange_stalled {awaited : ℕ}
    (hstalled : (exchange config index payload link).result = .error (.stalled awaited)) :
    config.timeout = none := by
  cases hsend : link.send payload with
  | error fault => rw [exchange_of_send_eq_error hsend] at hstalled; cases hstalled
  | ok sent =>
    rw [exchange_of_send_eq_ok hsend] at hstalled
    simp only [settle] at hstalled
    generalize (sent.await _ _).1 = arrival at hstalled
    generalize config.contract.expectation payload = expectation at hstalled
    cases expectation with
    | silence => cases arrival <;> cases hstalled
    | reply expected =>
      rw [judge] at hstalled
      cases arrival with
      | failed fault => cases hstalled
      | datagram received =>
        rw [judgeReply] at hstalled
        cases hcheck : checkReply config.bufferSize expected received <;>
          rw [hcheck] at hstalled <;> cases hstalled
      | expired =>
        rw [judgeReply] at hstalled
        cases htimeout : config.timeout with
        | none => rfl
        | some waited => rw [htimeout] at hstalled; cases hstalled

end Exchange

end Client

end DatagramEcho

import DatagramEcho.Proofs.Client.Passage

/-!
# The phases of a run

A run enters three phases for each exchange that succeeds. An exchange that fails enters some of
them, and how many of them tells what kind of failure it was.

* `Phase.round` and `Phase.rounds`: the phases of one exchange and of several exchanges in order.
* `Aborts`: the ways in which an exchange can fail, each with the phases it has entered by then.
  `exchange_aborts` says that there are no others.
* `phases_runFrom_of_ok` and `phases_runFrom_of_error`: the phases of a whole run.
* `run_trace`: every run goes from one phase to the next as it may, and its end tells how far it
  came.
-/

namespace DatagramEcho.Client

namespace Phase

/-- The phases of the exchange of one index. -/
def round (index : ℕ) : List Phase :=
  [.sending index, .awaiting index, .checking index]

/-- The phases of `count` exchanges, of which `first` is the first. -/
def rounds (first count : ℕ) : List Phase :=
  (List.range' first count).flatMap round

/-- The phases of several exchanges begin with those of the first one. -/
theorem rounds_succ (first count : ℕ) :
    rounds first (count + 1) = round first ++ rounds (first + 1) count := rfl

/-- Each of the phases may directly follow the one before it. -/
def Legal (phases : List Phase) : Prop :=
  phases.IsChain fun phase next => phase.canAdvanceTo next

/-- The steps of a run are those from one entered phase to the next. -/
theorem forall_transitions_iff (phases : List Phase) :
    (∀ step ∈ transitions phases, step.1.canAdvanceTo step.2) ↔ Legal (idle :: phases) := by
  unfold transitions
  -- the steps of the rest start from its own first phase, not from `idle`
  generalize idle = phase
  induction phases generalizing phase with
  | nil => simp [Legal]
  | cons next phases ih =>
    rw [List.zip_cons_cons, List.forall_mem_cons, ih next]
    simp [Legal]

section Steps

variable (index : ℕ)

/-- What was sent may be awaited. -/
@[simp]
theorem canAdvanceTo_awaiting : (sending index).canAdvanceTo (.awaiting index) = true := by
  simp [canAdvanceTo]

/-- What was awaited may be checked. -/
@[simp]
theorem canAdvanceTo_checking : (awaiting index).canAdvanceTo (.checking index) = true := by
  simp [canAdvanceTo]

/-- After a check the next index may be taken up. -/
@[simp]
theorem canAdvanceTo_next : (checking index).canAdvanceTo (.sending (index + 1)) = true := by
  simp [canAdvanceTo]

/-- A send may fail. -/
@[simp]
theorem sending_canAdvanceTo_failed : (sending index).canAdvanceTo (.failed index) = true := rfl

/-- A wait may fail. -/
@[simp]
theorem awaiting_canAdvanceTo_failed : (awaiting index).canAdvanceTo (.failed index) = true := rfl

/-- A check may fail. -/
@[simp]
theorem checking_canAdvanceTo_failed : (checking index).canAdvanceTo (.failed index) = true := rfl

end Steps

variable {phase : Phase} {first count : ℕ} {rest : List Phase}

/-- A run that may take up an index may also end instead. -/
theorem canAdvanceTo_done (hready : phase.canAdvanceTo (.sending first)) :
    phase.canAdvanceTo .done := by
  cases phase <;> simp_all [canAdvanceTo]

/-- Whole rounds follow a phase that may take up the first index, and leave the run in one that may
take up the next. -/
theorem legal_rounds_append (hready : phase.canAdvanceTo (.sending first))
    (hrest : ∀ last : Phase, last.canAdvanceTo (.sending (first + count)) → Legal (last :: rest)) :
    Legal (phase :: (rounds first count ++ rest)) := by
  -- each round starts from the check that ended the one before it
  induction count generalizing phase first with
  | zero => exact hrest phase hready
  | succ count ih =>
    rw [rounds_succ, round, List.append_assoc]
    have hnext : Legal (.checking first :: (rounds (first + 1) count ++ rest)) :=
      ih (canAdvanceTo_next first) fun last hlast =>
        hrest last (by rwa [← Nat.add_assoc, Nat.add_right_comm])
    simp only [Legal, List.cons_append, List.nil_append, List.isChain_cons_cons] at hnext ⊢
    exact ⟨hready, canAdvanceTo_awaiting first, canAdvanceTo_checking first, hnext⟩

end Phase

/-- The ways in which the exchange of a payload can end a run, each with the phases entered by then.
Where silence is due, the client turns to what came before it knows whether anything did. -/
inductive Aborts (contract : Contract) (index : ℕ) (payload : Payload) : Halt → List Phase → Prop
  /-- The payload could not be sent. -/
  | unsent (fault : Fault) :
    Aborts contract index payload (.failure (.transport index .send fault)) [.sending index]
  /-- A reply was due and did not come in time. -/
  | late (hexpects : contract.Expects payload) (waited : TimeSpan) :
    Aborts contract index payload (.failure (.timeout index waited))
      [.sending index, .awaiting index]
  /-- A reply was due and never comes. -/
  | endless (hexpects : contract.Expects payload) :
    Aborts contract index payload (.stalled index) [.sending index, .awaiting index]
  /-- A reply was due and the transport failed. -/
  | cutOff (hexpects : contract.Expects payload) (fault : Fault) :
    Aborts contract index payload (.failure (.transport index .receive fault))
      [.sending index, .awaiting index]
  /-- A reply was due and another one came. -/
  | wrong (hexpects : contract.Expects payload) (mismatch : Mismatch) :
    Aborts contract index payload (.failure (.validation index mismatch)) (Phase.round index)
  /-- Silence was due and a reply came. -/
  | surplus (hsilence : ¬ contract.Expects payload) (length : ℕ) :
    Aborts contract index payload (.failure (.unexpectedReply index length)) (Phase.round index)
  /-- Silence was due and the transport failed. -/
  | deaf (hsilence : ¬ contract.Expects payload) (fault : Fault) :
    Aborts contract index payload (.failure (.transport index .receive fault)) (Phase.round index)

namespace Aborts

variable {contract : Contract} {index : ℕ} {payload : Payload} {halt : Halt} {failure : Failure}
  {entered : List Phase} {phase : Phase}

/-- The failure names the index of the exchange. -/
theorem index?_eq (haborts : Aborts contract index payload (.failure failure) entered) :
    failure.index? = some index := by
  cases haborts <;> rfl

/-- The exchange was begun. -/
theorem ne_nil (haborts : Aborts contract index payload halt entered) : entered ≠ [] := by
  cases haborts <;> simp [Phase.round]

/-- The phases of the exchange were entered in order. -/
theorem prefix_round (haborts : Aborts contract index payload halt entered) :
    entered <+: Phase.round index := by
  cases haborts <;> simp [Phase.round]

/-- From wherever the exchange stopped, the run may turn to its end. -/
theorem legal (haborts : Aborts contract index payload halt entered)
    (hready : phase.canAdvanceTo (.sending index)) :
    Phase.Legal (phase :: (entered ++ halt.phases index)) := by
  cases haborts <;>
    simp [Phase.Legal, Phase.round, Halt.phases, hready]

/-- Only sending was begun if and only if the payload could not be sent. -/
theorem entered_eq_sending_iff
    (haborts : Aborts contract index payload (.failure failure) entered) :
    entered = [.sending index] ↔ ∃ fault, failure = .transport index .send fault := by
  cases haborts <;> simp [Phase.round]

/-- The wait was begun and not ended if and only if a reply was due and none came. -/
theorem entered_eq_awaiting_iff
    (haborts : Aborts contract index payload (.failure failure) entered) :
    entered = [.sending index, .awaiting index] ↔
      (∃ waited, failure = .timeout index waited) ∨
        ∃ fault, failure = .transport index .receive fault ∧ contract.Expects payload := by
  cases haborts <;> simp_all [Phase.round]

/-- The check was begun if and only if a wrong reply came, or silence was due. -/
theorem entered_eq_round_iff
    (haborts : Aborts contract index payload (.failure failure) entered) :
    entered = Phase.round index ↔
      (∃ mismatch, failure = .validation index mismatch) ∨
        (∃ length, failure = .unexpectedReply index length) ∨
          ∃ fault, failure = .transport index .receive fault ∧ ¬ contract.Expects payload := by
  cases haborts <;> simp_all [Phase.round]

end Aborts

section Exchange

variable {config : Config} {index : ℕ} {payload : Payload} {arrival : Arrival} {link sent : Link}
  {entry : Exchange} {halt : Halt}

/-- A wait that lets the exchange succeed is followed by the check. -/
theorem phasesAfterSend_of_settle_eq_ok (hok : settle config index payload arrival = .ok entry) :
    .sending index :: phasesAfterSend index (config.contract.expectation payload) arrival =
      Phase.round index := by
  rw [settle] at hok
  cases hreply : config.contract.reply? payload with
  -- where silence is due the check is entered whatever came
  | none => rw [config.contract.expectation_of_reply?_eq_none hreply]; rfl
  | some expected =>
    rw [config.contract.expectation_of_reply?_eq_some hreply] at hok ⊢
    cases arrival with
    | datagram received => rfl
    | expired =>
      rw [judge, judgeReply] at hok
      cases htimeout : config.timeout with
      | some waited => rw [htimeout] at hok; cases hok
      | none => rw [htimeout] at hok; cases hok
    | failed fault => cases hok

/-- A wait that ends the run does so in one of the known ways. -/
theorem aborts_of_settle_eq_error (herror : settle config index payload arrival = .error halt) :
    Aborts config.contract index payload halt
      (.sending index :: phasesAfterSend index (config.contract.expectation payload) arrival) := by
  rw [settle] at herror
  cases hreply : config.contract.reply? payload with
  | none =>
    have hsilence := (config.contract.not_expects_iff payload).mpr hreply
    rw [config.contract.expectation_of_reply?_eq_none hreply] at herror ⊢
    cases arrival with
    | datagram received => cases herror; exact .surplus hsilence _
    | expired => cases herror
    | failed fault => cases herror; exact .deaf hsilence fault
  | some expected =>
    have hexpects := (config.contract.expects_iff payload).mpr ⟨expected, hreply⟩
    rw [config.contract.expectation_of_reply?_eq_some hreply] at herror ⊢
    simp only [judge] at herror
    cases arrival with
    | datagram received =>
      rw [judgeReply] at herror
      cases hcheck : checkReply config.bufferSize expected received with
      | ok => rw [hcheck] at herror; cases herror
      | error mismatch => rw [hcheck] at herror; cases herror; exact .wrong hexpects mismatch
    | expired =>
      rw [judgeReply] at herror
      cases htimeout : config.timeout with
      | some waited => rw [htimeout] at herror; cases herror; exact .late hexpects waited
      | none => rw [htimeout] at herror; cases herror; exact .endless hexpects
    | failed fault => cases herror; exact .cutOff hexpects fault

/-- An exchange that succeeds enters all its phases. -/
theorem phases_exchange_of_ok (hok : (exchange config index payload link).result = .ok entry) :
    (exchange config index payload link).phases = Phase.round index := by
  cases hsend : link.send payload with
  | error fault => rw [exchange_of_send_eq_error hsend] at hok; cases hok
  | ok sent =>
    rw [exchange_of_send_eq_ok hsend] at hok ⊢
    exact phasesAfterSend_of_settle_eq_ok hok

/-- An exchange that fails does so in one of the known ways. -/
theorem exchange_aborts (herror : (exchange config index payload link).result = .error halt) :
    Aborts config.contract index payload halt (exchange config index payload link).phases := by
  cases hsend : link.send payload with
  | error fault =>
    rw [exchange_of_send_eq_error hsend] at herror ⊢
    cases herror
    exact .unsent fault
  | ok sent =>
    rw [exchange_of_send_eq_ok hsend] at herror ⊢
    exact aborts_of_settle_eq_error herror

/-- An exchange that succeeds brings its payload to the peer, once. -/
theorem requests_exchange_of_ok (hok : (exchange config index payload link).result = .ok entry) :
    (exchange config index payload link).link.requests = link.requests ++ [payload] := by
  cases hsend : link.send payload with
  | error fault => rw [exchange_of_send_eq_error hsend] at hok; cases hok
  | ok sent =>
    rw [exchange_of_send_eq_ok hsend, sent.requests_await]
    exact Link.requests_of_send_eq_ok hsend

end Exchange

section Run

variable {config : Config} {index : ℕ} {script : Script} {link : Link} {report : Report}
  {halt : Halt}

/-- A run that succeeds enters the phases of every exchange and brings every payload to the peer. -/
theorem phases_runFrom_of_ok (hok : (runFrom config index script link).result = .ok report) :
    (runFrom config index script link).phases = Phase.rounds index script.length ++ [.done] ∧
      (runFrom config index script link).link.requests = link.requests ++ script := by
  induction script generalizing index link report with
  | nil => exact ⟨rfl, (List.append_nil _).symm⟩
  | cons payload script ih =>
    obtain ⟨first, later, -, hfirst, hlater⟩ := exists_of_runFrom_cons_eq_ok hok
    obtain ⟨hphases, hrequests⟩ := ih hlater
    rw [runFrom_cons_of_ok hfirst]
    refine ⟨?_, ?_⟩
    · simp only [hphases, phases_exchange_of_ok hfirst]
      rw [List.length_cons, Phase.rounds_succ, List.append_assoc]
    · simp only [hrequests, requests_exchange_of_ok hfirst]
      rw [List.append_assoc, List.singleton_append]

/-- A run that ends early enters the phases of the exchanges before the one that fails, and those
that this one comes to. -/
theorem phases_runFrom_of_error (herror : (runFrom config index script link).result = .error halt) :
    ∃ before payload after entered, script = before ++ payload :: after ∧
      Aborts config.contract (index + before.length) payload halt entered ∧
      (runFrom config index script link).phases =
        Phase.rounds index before.length ++ (entered ++ halt.phases (index + before.length)) := by
  induction script generalizing index link with
  | nil => cases herror
  | cons payload script ih =>
    rcases cases_of_runFrom_cons_eq_error herror with hfirst | ⟨first, hfirst, hlater⟩
    -- either the first exchange failed, or a later one did and the first completed its round
    · rw [runFrom_cons_of_error hfirst]
      exact ⟨[], payload, script, _, rfl, exchange_aborts hfirst, rfl⟩
    · obtain ⟨before, failing, after, entered, rfl, haborts, hphases⟩ := ih hlater
      have hindex : index + 1 + before.length = index + (payload :: before).length := by
        rw [List.length_cons, Nat.add_assoc, Nat.add_comm 1]
      rw [hindex] at haborts hphases
      rw [runFrom_cons_of_ok hfirst]
      refine ⟨payload :: before, failing, after, entered, rfl, haborts, ?_⟩
      simp only [hphases, phases_exchange_of_ok hfirst]
      rw [List.length_cons, Phase.rounds_succ, List.append_assoc]

/-- Every run goes from one phase to the next as it may. -/
theorem legal_phases_runFrom {phase : Phase} (hready : phase.canAdvanceTo (.sending index)) :
    Phase.Legal (phase :: (runFrom config index script link).phases) := by
  cases hresult : (runFrom config index script link).result with
  | ok report =>
    rw [(phases_runFrom_of_ok hresult).1]
    refine Phase.legal_rounds_append hready fun last hlast => ?_
    simpa [Phase.Legal] using Phase.canAdvanceTo_done hlast
  | error halt =>
    obtain ⟨before, payload, after, entered, -, haborts, hphases⟩ := phases_runFrom_of_error hresult
    rw [hphases]
    exact Phase.legal_rounds_append hready fun last hlast => haborts.legal hlast

end Run

/-- Whoever the peer is, a run goes from one phase to the next as it may. If it succeeds, it has
entered the three phases of every exchange and then `done`, and the peer got the payloads of the
script, each once and in order. If it fails, it has entered the three phases of every exchange
before the one that failed, at least one of this one, and then `failed`. It had come no further than
sending exactly if it could not send, no further than waiting exactly if a reply was due and none
came, and as far as the check in all other cases. -/
theorem run_trace (config : Config) (script : Script) (peer : Peer) :
    let course := run config script { peer }
    (∀ step ∈ Phase.transitions course.phases, step.1.canAdvanceTo step.2) ∧
      (∀ report, course.result = .ok report →
        course.phases = Phase.rounds 0 script.length ++ [.done] ∧
          course.link.requests = script) ∧
      ∀ failure, course.result = .error (.failure failure) →
        ∃ before payload after entered, script = before ++ payload :: after ∧
          let index := before.length
          failure.index? = some index ∧
            course.phases = Phase.rounds 0 index ++ (entered ++ [.failed index]) ∧
            entered ≠ [] ∧ entered <+: Phase.round index ∧
            (entered = [.sending index] ↔ ∃ fault, failure = .transport index .send fault) ∧
            (entered = [.sending index, .awaiting index] ↔
              (∃ waited, failure = .timeout index waited) ∨
                ∃ fault, failure = .transport index .receive fault ∧
                  config.contract.Expects payload) ∧
            (entered = Phase.round index ↔
              (∃ mismatch, failure = .validation index mismatch) ∨
                (∃ length, failure = .unexpectedReply index length) ∨
                  ∃ fault, failure = .transport index .receive fault ∧
                    ¬ config.contract.Expects payload) := by
  refine ⟨?_, fun report hreport => ?_, fun failure hfailure => ?_⟩
  · rw [Phase.forall_transitions_iff]
    exact legal_phases_runFrom rfl
  · exact phases_runFrom_of_ok hreport
  · obtain ⟨before, payload, after, entered, hscript, haborts, hphases⟩ :=
      phases_runFrom_of_error hfailure
    rw [Nat.zero_add] at haborts hphases
    exact ⟨before, payload, after, entered, hscript, haborts.index?_eq, hphases, haborts.ne_nil,
      haborts.prefix_round, haborts.entered_eq_sending_iff, haborts.entered_eq_awaiting_iff,
      haborts.entered_eq_round_iff⟩

/-- A run whose replies come enters three phases for each of its two exchanges. Where the second
reply is missing, the run is still waiting for it when it fails. -/
theorem run_trace_of_missing_reply :
    let whole := run .standard [[97], [98]] { peer := .scripted [[[97]], [[98]]] }
    let cut := run .standard [[97], [98]] { peer := .scripted [[[97]]] }
    whole.result = .ok ⟨[⟨0, 1, some 1⟩, ⟨1, 1, some 1⟩]⟩ ∧
      whole.phases = Phase.rounds 0 2 ++ [.done] ∧ whole.link.requests = [[97], [98]] ∧
      cut.result = .error (.failure (.timeout 1 (.ofMilliseconds 2000))) ∧
      cut.phases = Phase.rounds 0 1 ++ [.sending 1, .awaiting 1, .failed 1] := by
  intro whole cut
  have hwhole : whole.result = .ok ⟨[⟨0, 1, some 1⟩, ⟨1, 1, some 1⟩]⟩ := rfl
  have hcut : cut.result = .error (.failure (.timeout 1 (.ofMilliseconds 2000))) := rfl
  obtain ⟨-, hok, -⟩ := run_trace .standard [[97], [98]] (.scripted [[[97]], [[98]]])
  obtain ⟨-, -, herror⟩ := run_trace .standard [[97], [98]] (.scripted [[[97]]])
  obtain ⟨before, payload, after, entered, -, hindex, hphases, -, -, -, hawaiting, -⟩ :=
    herror _ hcut
  have hbefore : before.length = 1 := (Option.some.inj hindex).symm
  have hentered : entered = [.sending 1, .awaiting 1] := by
    rw [← hbefore]
    exact hawaiting.mpr (.inl ⟨_, by rw [hbefore]⟩)
  rw [hbefore, hentered] at hphases
  exact ⟨hwhole, (hok _ hwhole).1, (hok _ hwhole).2, hcut, hphases⟩

end DatagramEcho.Client

import DatagramEcho.Proofs.Client.Trace

/-!
# The answers in a run

A run that succeeds has seen an answer to each of its payloads to which a reply is due: right after
the payload was sent, the oldest datagram on its way was one that passes the check, and the client
took it.

* `Answered`: a payload is answered in a run.
* `exists_answered_of_run_eq_ok`: in a run that succeeds every payload to which a reply is due is
  answered.
-/

namespace DatagramEcho.Client

variable {config : Config} {payload : Payload} {before after plan : Script} {link : Link}
  {report : Report}

/-- In a run that has got through `before`, a payload is answered. Once it is sent, the oldest
datagram on its way is one that the client takes and, cut to its buffer, accepts as the transformed
payload. -/
structure Answered (config : Config) (link : Link) (before : Script) (payload : Payload)
    (datagram : Payload) : Prop where
  /-- The run gets as far as that. -/
  reached : ∃ earlier, (run config before link).result = .ok earlier
  /-- The payload is sent, and the datagram is taken. -/
  taken : ∃ sent later, (run config before link).link.send payload = .ok sent ∧
    sent.queue = datagram :: later ∧
    (run config (before ++ [payload]) link).link = { sent with queue := later }
  /-- The datagram passes the check. -/
  accepted : checkReply config.bufferSize (config.contract.transform.apply payload)
    (datagram.take config.bufferSize) = .ok ()

/-- In a run that succeeds every payload to which a reply is due is answered. -/
theorem exists_answered_of_run_eq_ok
    (hok : (run config (before ++ payload :: after) link).result = .ok report)
    (hexpects : config.contract.Expects payload) :
    ∃ datagram, Answered config link before payload datagram := by
  unfold run at hok
  obtain ⟨expected, hreply⟩ := (config.contract.expects_iff payload).mp hexpects
  obtain ⟨earlier, rest, hbefore, hrest⟩ := exists_of_runFrom_append_eq_ok hok
  obtain ⟨entry, later, -, hentry, -⟩ := exists_of_runFrom_cons_eq_ok hrest
  obtain ⟨sent, datagram, queue, hsend, hqueue, hcheck, hlink⟩ :=
    exists_of_exchange_eq_ok hreply hentry
  rw [config.contract.eq_apply_of_reply?_eq_some hreply] at hcheck
  refine ⟨datagram, ⟨earlier, hbefore⟩, ⟨sent, queue, hsend, hqueue, ?_⟩, hcheck⟩
  -- the run that stops right after the payload leaves the link of that exchange
  rw [run, link_runFrom_append hbefore, runFrom_cons_of_ok hentry]
  exact hlink

end DatagramEcho.Client

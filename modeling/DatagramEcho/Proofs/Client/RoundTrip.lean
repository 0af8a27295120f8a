import DatagramEcho.Proofs.Client.EventLoops
import DatagramEcho.Proofs.Client.Served

/-!
# Round trips between agreeing sides

A client and a server with the same contract may still have buffers of different sizes. On its way
a payload is cut twice: the request to the server's buffer, the reply to the client's.

* `RoundTrips clientSize serverSize payload`: the payload survives. Longer payloads may survive
  where shorter ones do not, since a reply that is oversize for the client may be cut anywhere.
* `run_agreeing`: the result of every run between agreeing sides.
-/

namespace DatagramEcho.Client

/-- Whether a payload survives the round trip. It has to fit the transport, and the server may cut
it only if the client's buffer would do so too. -/
def RoundTrips (clientSize serverSize : ℕ) (payload : Payload) : Prop :=
  payload.length ≤ maxPayloadSize ∧ (payload.length ≤ serverSize ∨ clientSize < payload.length)

instance (clientSize serverSize : ℕ) (payload : Payload) :
    Decidable (RoundTrips clientSize serverSize payload) :=
  inferInstanceAs (Decidable (_ ∧ _))

/-- The report's entry for a payload that survives the round trip. -/
def roundTrip (contract : Contract) (clientSize serverSize index : ℕ) (payload : Payload) :
    Exchange where
  index
  sentLength := payload.length
  receivedLength :=
    if payload = [] ∧ contract.emptyPolicy = .drop then none
    else some (min payload.length (min serverSize clientSize))

section Served

variable {config : Config} {serverSize index : ℕ} {payload : Payload}

/-- Where a reply is due, the client gets an initial segment of it, which both buffers have room
for, and checks that. -/
theorem served_of_reply?_eq_some {expected : Payload} (hserver : 1 ≤ serverSize)
    (hlength : payload.length ≤ maxPayloadSize) (hwaits : ¬ config.Refuses payload)
    (hreply : config.contract.reply? payload = some expected) :
    served config serverSize config.contract index payload =
      if payload.length ≤ serverSize ∨ config.bufferSize < payload.length then
        .ok ⟨index, payload.length, some (min payload.length (min serverSize config.bufferSize))⟩
      else
        .error (.failure (.validation index ⟨payload.length, serverSize, some serverSize⟩)) := by
  have hexpected := config.contract.length_of_reply?_eq_some hreply
  rw [served_of_not_refuses hlength hwaits, config.contract.reply?_take hserver, hreply,
    Option.map_some, verdict_reply_some hreply, List.take_take,
    checkReply_take (Nat.min_le_left _ _), hexpected, List.length_take, hexpected,
    Nat.min_comm config.bufferSize, Nat.min_comm _ payload.length]
  -- the client's own buffer cuts no reply that it does not also count as oversize
  by_cases hpass : payload.length ≤ serverSize ∨ config.bufferSize < payload.length
  · have hcheck : payload.length ≤ min serverSize config.bufferSize ∨
        config.bufferSize < payload.length := by omega
    rw [if_pos hcheck, if_pos hpass]
  · have hcheck : ¬ (payload.length ≤ min serverSize config.bufferSize ∨
        config.bufferSize < payload.length) := by omega
    have hcut : min serverSize config.bufferSize = serverSize := by omega
    rw [if_neg hcheck, if_neg hpass, hcut]

/-- A payload that survives the round trip succeeds. -/
theorem served_of_roundTrips (hserver : 1 ≤ serverSize)
    (hsurvives : RoundTrips config.bufferSize serverSize payload)
    (hwaits : ¬ config.Refuses payload) :
    served config serverSize config.contract index payload =
      .ok (roundTrip config.contract config.bufferSize serverSize index payload) := by
  obtain ⟨hlength, hcut⟩ := hsurvives
  cases hreply : config.contract.reply? payload with
  | none =>
    have hempty := (config.contract.reply?_eq_none_iff payload).mp hreply
    rw [served_of_not_refuses hlength hwaits, config.contract.reply?_take hserver, hreply,
      Option.map_none, verdict_silence_none hreply, roundTrip, if_pos hempty]
  | some expected =>
    have hdue : ¬ (payload = [] ∧ config.contract.emptyPolicy = .drop) := by
      rw [← Contract.reply?_eq_none_iff, hreply]
      simp
    rw [served_of_reply?_eq_some hserver hlength hwaits hreply, if_pos hcut, roundTrip,
      if_neg hdue]

/-- A payload that the server cuts although the client has room for it does not match. -/
theorem served_of_cut (hserver : 1 ≤ serverSize) (hlength : payload.length ≤ maxPayloadSize)
    (hwaits : ¬ config.Refuses payload) (hcut : serverSize < payload.length)
    (hroom : payload.length ≤ config.bufferSize) :
    served config serverSize config.contract index payload =
      .error (.failure (.validation index ⟨payload.length, serverSize, some serverSize⟩)) := by
  cases hreply : config.contract.reply? payload with
  | none =>
    have hempty := ((config.contract.reply?_eq_none_iff payload).mp hreply).1
    simp [hempty] at hcut
  | some expected =>
    have hfails : ¬ (payload.length ≤ serverSize ∨ config.bufferSize < payload.length) := by omega
    rw [served_of_reply?_eq_some hserver hlength hwaits hreply, if_neg hfails]

end Served

/-- A list that breaks a rule has a first element that does. -/
theorem exists_first_not {α : Type} {rule : α → Prop} [DecidablePred rule] {list : List α}
    (h : ¬ ∀ a ∈ list, rule a) :
    ∃ before a after, list = before ++ a :: after ∧ (∀ b ∈ before, rule b) ∧ ¬ rule a := by
  cases hfind : list.find? fun a => !decide (rule a) with
  | none =>
    refine absurd (fun a ha => ?_) h
    simpa using List.find?_eq_none.mp hfind a ha
  | some a =>
    obtain ⟨ha, before, after, rfl, hbefore⟩ := List.find?_eq_some_iff_append.mp hfind
    exact ⟨before, a, after, rfl, fun b hb => by simpa using hbefore b hb, by simpa using ha⟩

section Run

variable {client : Config} {server : Server.Config} {script before : Script} {payload : Payload}
  (hserver : ValidBufferSize server.bufferSize) (hagree : server.contract = client.contract)

include hserver hagree

/-- A run in which every payload survives and no wait is refused ends in a report with an entry for
each. -/
theorem result_run_of_survive
    (hsurvive : ∀ payload ∈ script,
      RoundTrips client.bufferSize server.bufferSize payload ∧ ¬ client.Refuses payload) :
    (run client script { peer := .serving server.endpoint }).result =
      .ok ⟨script.mapIdx (roundTrip client.contract client.bufferSize server.bufferSize)⟩ := by
  have hrun := (steady_atRest.runFrom_of_forall_ok 0 (hagree ▸ Link.atRest_endpoint server)
    fun payload hpayload _ =>
      served_of_roundTrips hserver.1 (hsurvive payload hpayload).1 (hsurvive payload hpayload).2).1
  simp only [Nat.zero_add] at hrun
  exact hrun

/-- A run ends at the first payload that does not survive, or whose wait is refused. -/
theorem result_run_of_lost (after : Script) {failure : Failure}
    (hbefore : ∀ payload ∈ before,
      RoundTrips client.bufferSize server.bufferSize payload ∧ ¬ client.Refuses payload)
    (hlost : served client server.bufferSize client.contract before.length payload =
      .error (.failure failure)) :
    (run client (before ++ payload :: after) { peer := .serving server.endpoint }).result =
      .error (.failure failure) :=
  steady_atRest.result_run_of_error (hagree ▸ Link.atRest_endpoint server)
    (fun payload hpayload _ =>
      served_of_roundTrips hserver.1 (hbefore payload hpayload).1 (hbefore payload hpayload).2)
    hlost

/-- A run that succeeds has carried no payload that does not survive, and none whose wait is
refused. -/
theorem survive_of_result_run_eq_ok {report : Report}
    (hreport : (run client script { peer := .serving server.endpoint }).result = .ok report) :
    ∀ payload ∈ script,
      RoundTrips client.bufferSize server.bufferSize payload ∧ ¬ client.Refuses payload := by
  by_contra hnot
  obtain ⟨before, payload, after, rfl, hbefore, hfails⟩ := exists_first_not hnot
  -- the first payload that breaks the rule fails in one of three ways
  have hlost : ∃ failure, served client server.bufferSize client.contract before.length payload =
      .error (.failure failure) := by
    by_cases hlength : payload.length ≤ maxPayloadSize
    · by_cases hwaits : client.Refuses payload
      · exact ⟨_, served_of_refuses hlength hwaits⟩
      · have hcut : server.bufferSize < payload.length ∧ payload.length ≤ client.bufferSize := by
          by_contra hcut
          exact hfails ⟨⟨hlength, by omega⟩, hwaits⟩
        exact ⟨_, served_of_cut hserver.1 hlength hwaits hcut.1 hcut.2⟩
    · exact ⟨_, served_of_lt_length (Nat.lt_of_not_le hlength)⟩
  obtain ⟨failure, hlost⟩ := hlost
  cases hreport.symm.trans (result_run_of_lost hserver hagree after hbefore hlost)

end Run

/-- Between agreeing sides a run succeeds if and only if every payload survives the round trip and
no wait is refused. Then the report has an entry for each payload. Otherwise the run ends at the
first payload that does not come through: because it could not be sent, because the client is told
to wait for its reply for no time at all, or because the server cut it. The timeout of a client that
was configured is never zero (`timeout_ne_zero_of_load`), so that no wait of such a client is
refused. Whatever event loop the server runs, it does at every point of the run what the server does
here. -/
theorem run_agreeing (client : Config) (server : Server.Config)
    (hserver : ValidBufferSize server.bufferSize) (hagree : server.contract = client.contract)
    (script : Script) :
    let course := run client script { peer := .serving server.endpoint }
    let survives := RoundTrips client.bufferSize server.bufferSize
    ((∃ report, course.result = .ok report) ↔
        ∀ payload ∈ script, survives payload ∧ ¬ client.Refuses payload) ∧
      (∀ report, course.result = .ok report → report.exchanges =
        script.mapIdx (roundTrip client.contract client.bufferSize server.bufferSize)) ∧
      (∀ before payload after, script = before ++ payload :: after →
        (∀ earlier ∈ before, survives earlier ∧ ¬ client.Refuses earlier) →
        (maxPayloadSize < payload.length →
          course.result = .error (.failure (.transport before.length .send .messageTooLong))) ∧
        (payload.length ≤ maxPayloadSize → client.Refuses payload →
          course.result = .error (.failure (.transport before.length .receive .zeroTimeout))) ∧
        (payload.length ≤ maxPayloadSize → ¬ client.Refuses payload →
          server.bufferSize < payload.length → payload.length ≤ client.bufferSize →
          course.result = .error (.failure (.validation before.length
            ⟨payload.length, server.bufferSize, some server.bufferSize⟩)))) ∧
      ∀ before after, script = before ++ after →
        (run client before { peer := .serving server.endpoint }).link.Realizes server := by
  refine ⟨⟨?_, ?_⟩, ?_, ?_, fun before after _ => realizes_run client server before⟩
  · rintro ⟨report, hreport⟩
    exact survive_of_result_run_eq_ok hserver hagree hreport
  · intro hsurvive
    exact ⟨_, result_run_of_survive hserver hagree hsurvive⟩
  · intro report hreport
    have hsurvive := survive_of_result_run_eq_ok hserver hagree hreport
    cases (result_run_of_survive hserver hagree hsurvive).symm.trans hreport
    rfl
  · rintro before payload after rfl hbefore
    refine ⟨fun hlength => ?_, fun hlength hrefuses => ?_, fun hlength hwaits hcut hroom => ?_⟩
    · exact result_run_of_lost hserver hagree after hbefore (served_of_lt_length hlength)
    · exact result_run_of_lost hserver hagree after hbefore (served_of_refuses hlength hrefuses)
    · exact result_run_of_lost hserver hagree after hbefore
        (served_of_cut hserver.1 hlength hwaits hcut hroom)

/-- With two bytes of room at the server and four at the client, five bytes survive and three do
not. -/
theorem run_agreeing_cut :
    ValidBufferSize { Server.Config.standard with bufferSize := 2 }.bufferSize ∧
      { Server.Config.standard with bufferSize := 2 }.contract = Config.standard.contract ∧
      (run { Config.standard with bufferSize := 4 } [[1, 2], [1, 2, 3, 4, 5], [1, 2, 3]]
          { peer := .serving { Server.Config.standard with bufferSize := 2 }.endpoint }).result =
        .error (.failure (.validation 2 ⟨3, 2, some 2⟩)) := by
  refine ⟨by decide, rfl, ?_⟩
  exact ((run_agreeing { Config.standard with bufferSize := 4 }
    { Server.Config.standard with bufferSize := 2 } (by decide) rfl
    [[1, 2], [1, 2, 3, 4, 5], [1, 2, 3]]).2.2.1 [[1, 2], [1, 2, 3, 4, 5]] [1, 2, 3] [] rfl
    (by decide)).2.2 (by decide) (by decide) (by decide) (by decide)

/-- Not every pair of agreeing sides with valid buffers comes through. A client that is told to wait
for no time at all sends a letter that survives, and then gives up. And a client that cannot bind
its socket sends nothing. -/
theorem not_run_agreeing_of_zero :
    let client := { Config.standard with timeout := some .zero }
    let server := Server.Config.standard
    let elsewhere : SocketAddress := .v6 ⟨#v[0x2001, 0xdb8, 0, 0, 0, 0, 0, 1]⟩ 0 0
    let course := run client [[97]] { peer := .serving server.endpoint }
    ValidBufferSize client.bufferSize ∧ ValidBufferSize server.bufferSize ∧
      server.contract = client.contract ∧
      (∀ payload ∈ [[97]], RoundTrips client.bufferSize server.bufferSize payload) ∧
      course.result = .error (.failure (.transport 0 .receive .zeroTimeout)) ∧
      (¬ ∃ report, course.result = .ok report) ∧
      connect .isolated { Config.standard with bind := elsewhere } =
        .error (.bind elsewhere .addressNotAvailable) := by
  intro client server elsewhere course
  have hresult : course.result = .error (.failure (.transport 0 .receive .zeroTimeout)) := rfl
  refine ⟨by decide, by decide, rfl, by decide, hresult, ?_, rfl⟩
  rw [hresult]
  exact fun ⟨report, hreport⟩ => nomatch hreport

end DatagramEcho.Client

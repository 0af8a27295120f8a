import DatagramEcho.Proofs.Client.RoundTrip
import Mathlib.Data.List.Forall2

/-!
# Runs between disagreeing sides

A client and a server with different contracts may get along for a while, as long as no payload
brings out the difference. The first payload that does ends the run. An oversize payload is no
exception, although only an initial segment of its reply is checked: both buffers leave at least one
byte of the reply, and there the two transforms already differ.

* `Contract.Exposes`: a payload brings out the difference between two contracts.
* `exists_served_eq_error`: an exchange of such a payload fails.
* `served_of_transform_ne`, `served_of_drop_echo` and `served_of_echo_drop`: how it fails.
* `run_disagreeing`: what becomes of a run.
-/

namespace DatagramEcho

/-- No byte is its own complement. -/
theorem complement_ne_self (byte : UInt8) : ~~~byte ≠ byte := by
  intro h
  have hvalue := congrArg UInt8.toNat h
  simp only [UInt8.toNat_not, UInt8.size] at hvalue
  omega

namespace Transform

/-- The transform of one byte. -/
def applyByte : Transform → UInt8 → UInt8
  | identity, byte => byte
  | invert, byte => ~~~byte

/-- A transform works byte by byte. -/
theorem apply_cons (transform : Transform) (byte : UInt8) (rest : Payload) :
    transform.apply (byte :: rest) = transform.applyByte byte :: transform.apply rest := by
  cases transform <;> rfl

/-- Two transforms agree on no byte. -/
theorem applyByte_ne {transform other : Transform} (hne : transform ≠ other) (byte : UInt8) :
    transform.applyByte byte ≠ other.applyByte byte := by
  cases transform <;> cases other
  · exact absurd rfl hne
  · exact (complement_ne_self byte).symm
  · exact complement_ne_self byte
  · exact absurd rfl hne

end Transform

/-- Where the first bytes differ, no capacity lets the reply pass that has room for it. -/
theorem checkReply_cons_of_ne {capacity : ℕ} {a b : UInt8} {expected received : Payload}
    (hne : a ≠ b) (hroom : (b :: received).length ≤ capacity) :
    checkReply capacity (a :: expected) (b :: received) =
      .error ⟨(a :: expected).length, (b :: received).length, some 0⟩ := by
  unfold checkReply
  split_ifs with hfits hlong
  · simp [Payload.firstDifference?, hne]
  · exact absurd hroom (Nat.not_le_of_gt hlong)
  · simp [Payload.firstDifference?, hne]

namespace Contract

/-- Whether a payload brings out the difference between two contracts: a payload with bytes that of
the transforms, the empty payload that of the treatments of empty datagrams. -/
def Exposes (contract other : Contract) (payload : Payload) : Prop :=
  (payload ≠ [] ∧ contract.transform ≠ other.transform) ∨
    (payload = [] ∧ contract.emptyPolicy ≠ other.emptyPolicy)

instance (contract other : Contract) (payload : Payload) :
    Decidable (contract.Exposes other payload) :=
  inferInstanceAs (Decidable (_ ∨ _))

/-- Two contracts give a payload the same reply unless it brings out their difference. -/
theorem reply?_eq_of_not_exposes {contract other : Contract} {payload : Payload}
    (hsame : ¬ contract.Exposes other payload) :
    contract.reply? payload = other.reply? payload := by
  cases payload with
  | nil =>
    have hpolicy : contract.emptyPolicy = other.emptyPolicy := by simpa [Exposes] using hsame
    cases hother : other.emptyPolicy <;> simp [reply?, hpolicy, hother]
  | cons byte rest =>
    have htransform : contract.transform = other.transform := by simpa [Exposes] using hsame
    simp only [reply?, htransform]

end Contract

namespace Client

variable {config : Config} {serverSize index : ℕ} {contract : Contract} {payload : Payload}

/-- A server whose reply to a payload is the one that the client expects serves it as an agreeing
server would. -/
theorem served_of_reply?_eq (hserver : 1 ≤ serverSize)
    (hsame : config.contract.reply? payload = contract.reply? payload) :
    served config serverSize contract index payload =
      served config serverSize config.contract index payload := by
  simp only [served, Contract.reply?_take _ hserver, hsame]

/-- A reply under the wrong transform already differs from the expected one in its first byte. -/
theorem served_of_transform_ne (hclient : 1 ≤ config.bufferSize) (hserver : 1 ≤ serverSize)
    (hlength : payload.length ≤ maxPayloadSize) (hwaits : ¬ config.Refuses payload)
    (hbytes : payload ≠ []) (htransform : config.contract.transform ≠ contract.transform) :
    served config serverSize contract index payload =
      .error (.failure (.validation index
        ⟨payload.length, min payload.length (min serverSize config.bufferSize), some 0⟩)) := by
  obtain ⟨byte, rest, rfl⟩ := List.exists_cons_of_ne_nil hbytes
  have hexpected : config.contract.reply? (byte :: rest) =
      some (config.contract.transform.applyByte byte :: config.contract.transform.apply rest) := by
    rw [← Transform.apply_cons]
    rfl
  have hgiven : contract.reply? (byte :: rest) =
      some (contract.transform.applyByte byte :: contract.transform.apply rest) := by
    rw [← Transform.apply_cons]
    rfl
  -- both cuts together leave `room + 1` bytes of the reply
  obtain ⟨room, hroom⟩ : ∃ room, min config.bufferSize serverSize = room + 1 :=
    Nat.exists_eq_add_of_le' (Nat.le_min.mpr ⟨hclient, hserver⟩)
  have hcut : (contract.transform.applyByte byte ::
      (contract.transform.apply rest).take room).length ≤ config.bufferSize := by
    rw [List.length_cons, List.length_take]
    omega
  rw [served_of_not_refuses hlength hwaits, contract.reply?_take hserver, hgiven,
    Option.map_some, verdict_reply_some hexpected, List.take_take, hroom, List.take_succ_cons,
    checkReply_cons_of_ne (Transform.applyByte_ne htransform byte) hcut]
  simp only [List.length_cons, List.length_take, Transform.length_apply]
  rw [Nat.min_comm serverSize, hroom, Nat.add_min_add_right, Nat.min_comm room]

/-- Where the client expects silence and the server answers, the reply is one too many. -/
theorem served_of_drop_echo (hclient : config.contract.emptyPolicy = .drop)
    (hserver : contract.emptyPolicy = .echo) :
    served config serverSize contract index [] =
      .error (.failure (.unexpectedReply index 0)) := by
  have hexpected : config.contract.reply? [] = none := by simp only [Contract.reply?, hclient]
  have hgiven : contract.reply? [] = some [] := by simp only [Contract.reply?, hserver]
  rw [served_of_not_refuses (Nat.zero_le _) (Config.not_refuses_of_reply?_eq_none hexpected),
    List.take_nil, hgiven, verdict_silence_some hexpected, List.take_nil, List.length_nil]

/-- Where the client expects an empty reply and the server keeps silent, the timeout passes, or the
client waits forever. -/
theorem served_of_echo_drop (hwaits : ¬ config.Refuses [])
    (hclient : config.contract.emptyPolicy = .echo) (hserver : contract.emptyPolicy = .drop) :
    served config serverSize contract index [] =
      .error (match config.timeout with
        | some waited => .failure (.timeout index waited)
        | none => .stalled index) := by
  have hexpected : config.contract.reply? [] = some [] := by simp only [Contract.reply?, hclient]
  have hgiven : contract.reply? [] = none := by simp only [Contract.reply?, hserver]
  rw [served_of_not_refuses (Nat.zero_le _) hwaits, List.take_nil, hgiven]
  cases htimeout : config.timeout with
  | none => rw [verdict_reply_none_stalled htimeout hexpected]
  | some waited => rw [verdict_reply_none htimeout hexpected]

/-- An exchange of a payload that brings out a difference fails, or never ends. -/
theorem exists_served_eq_error (index : ℕ) (hclient : 1 ≤ config.bufferSize)
    (hserver : 1 ≤ serverSize) (hexposes : config.contract.Exposes contract payload) :
    ∃ halt, served config serverSize contract index payload = .error halt := by
  by_cases hlength : payload.length ≤ maxPayloadSize
  · by_cases hwaits : config.Refuses payload
    · exact ⟨_, served_of_refuses hlength hwaits⟩
    · rcases hexposes with ⟨hbytes, htransform⟩ | ⟨rfl, hpolicy⟩
      · exact ⟨_, served_of_transform_ne hclient hserver hlength hwaits hbytes htransform⟩
      · cases hexpects : config.contract.emptyPolicy <;> cases hanswers : contract.emptyPolicy
        · exact absurd (hexpects.trans hanswers.symm) hpolicy
        · exact ⟨_, served_of_drop_echo hexpects hanswers⟩
        · exact ⟨_, served_of_echo_drop hwaits hexpects hanswers⟩
        · exact absurd (hexpects.trans hanswers.symm) hpolicy
  · exact ⟨_, served_of_lt_length (Nat.lt_of_not_le hlength)⟩

section Run

variable {client : Config} {server : Server.Config} {script before : Script}

/-- A run that succeeds has carried no payload that brings out a difference. -/
theorem not_exposes_of_result_run_eq_ok (hclient : ValidBufferSize client.bufferSize)
    (hserver : ValidBufferSize server.bufferSize) {report : Report}
    (hreport : (run client script { peer := .serving server.endpoint }).result = .ok report) :
    ∀ payload ∈ script, ¬ client.contract.Exposes server.contract payload := by
  have hserved := forall₂_served_of_ok (Link.atRest_endpoint server) hreport
  refine ((List.forall₂_and_left script report.exchanges).mp
    (hserved.imp fun payload entry hentry => ⟨?_, hentry⟩)).1
  intro hexposes
  obtain ⟨index, hok⟩ := hentry
  obtain ⟨halt, herror⟩ := exists_served_eq_error index hclient.1 hserver.1 hexposes
  cases hok.symm.trans herror

/-- A run ends at the first payload whose exchange fails, if the payloads before it survive the
round trip, bring out no difference, and have no wait refused. -/
theorem result_run_of_served_eq_error (hserver : ValidBufferSize server.bufferSize)
    (hbefore : ∀ earlier ∈ before, ¬ client.contract.Exposes server.contract earlier ∧
      RoundTrips client.bufferSize server.bufferSize earlier ∧ ¬ client.Refuses earlier)
    (payload : Payload) (after : Script) {halt : Halt}
    (herror : served client server.bufferSize server.contract before.length payload =
      .error halt) :
    (run client (before ++ payload :: after) { peer := .serving server.endpoint }).result =
      .error halt := by
  have hpasses : ∀ earlier ∈ before, ∀ index,
      served client server.bufferSize server.contract index earlier =
        .ok (roundTrip client.contract client.bufferSize server.bufferSize index earlier) := by
    intro earlier hearlier index
    obtain ⟨hsame, hsurvives, hwaits⟩ := hbefore earlier hearlier
    rw [served_of_reply?_eq hserver.1 (Contract.reply?_eq_of_not_exposes hsame)]
    exact served_of_roundTrips hserver.1 hsurvives hwaits
  exact steady_atRest.result_run_of_error (Link.atRest_endpoint server) hpasses herror

end Run

/-- Let a client with a timeout and a server have different contracts. If a payload of the script
brings out the difference, the run fails. If moreover the payloads before the first such one survive
the round trip, the run fails right there. Where the transforms differ, the reply does not match
from its first byte on, however much of it both buffers leave. Where the treatments of empty
datagrams differ, either an empty reply comes that the client does not expect, or the one it expects
does not come in time. All this is so unless the timeout is zero: the client then gives up at the
first payload to which a reply is due, whatever would come. The timeout of a client that was
configured is never zero (`timeout_ne_zero_of_load`). Whatever event loop the server runs, it does
at every point of the run what the server does here. -/
theorem run_disagreeing (client : Config) (server : Server.Config)
    (hclient : ValidBufferSize client.bufferSize) (hserver : ValidBufferSize server.bufferSize)
    {waited : TimeSpan} (htimeout : client.timeout = some waited) (script : Script) :
    let result := (run client script { peer := .serving server.endpoint }).result
    let exposes := client.contract.Exposes server.contract
    let survives := RoundTrips client.bufferSize server.bufferSize
    ((∃ payload ∈ script, exposes payload) → ∃ failure, result = .error (.failure failure)) ∧
      (∀ before payload after, script = before ++ payload :: after →
        (∀ earlier ∈ before, ¬ exposes earlier ∧ survives earlier ∧ ¬ client.Refuses earlier) →
        payload.length ≤ maxPayloadSize →
        (client.Refuses payload →
          result = .error (.failure (.transport before.length .receive .zeroTimeout))) ∧
        (¬ client.Refuses payload → payload ≠ [] →
          client.contract.transform ≠ server.contract.transform →
          result = .error (.failure (.validation before.length
            ⟨payload.length, min payload.length (min server.bufferSize client.bufferSize),
              some 0⟩))) ∧
        (payload = [] → client.contract.emptyPolicy = .drop →
          server.contract.emptyPolicy = .echo →
          result = .error (.failure (.unexpectedReply before.length 0))) ∧
        (¬ client.Refuses payload → payload = [] → client.contract.emptyPolicy = .echo →
          server.contract.emptyPolicy = .drop →
          result = .error (.failure (.timeout before.length waited)))) ∧
      (waited ≠ .zero → ∀ payload, ¬ client.Refuses payload) ∧
      ∀ before after, script = before ++ after →
        (run client before { peer := .serving server.endpoint }).link.Realizes server := by
  intro result exposes survives
  refine ⟨fun ⟨payload, hpayload, hexposes⟩ => ?_, ?_, fun hwaited payload => ?_,
    fun before after _ => realizes_run client server before⟩
  · refine exists_failure_of_ne_ok htimeout fun report hreport => ?_
    exact not_exposes_of_result_run_eq_ok hclient hserver hreport payload hpayload hexposes
  · rintro before payload after rfl hbefore hlength
    refine ⟨fun hrefuses => ?_, fun hwaits hbytes htransform => ?_, fun hempty hdrop hecho => ?_,
      fun hwaits hempty hecho hdrop => ?_⟩
    · exact result_run_of_served_eq_error hserver hbefore payload after
        (served_of_refuses hlength hrefuses)
    · exact result_run_of_served_eq_error hserver hbefore payload after
        (served_of_transform_ne hclient.1 hserver.1 hlength hwaits hbytes htransform)
    · subst hempty
      exact result_run_of_served_eq_error hserver hbefore [] after
        (served_of_drop_echo hdrop hecho)
    · subst hempty
      have hrun := result_run_of_served_eq_error hserver hbefore [] after
        (served_of_echo_drop hwaits hecho hdrop)
      rw [htimeout] at hrun
      exact hrun
  · refine Config.not_refuses_of_timeout_ne_zero fun hzero => hwaited ?_
    exact Option.some.inj (htimeout.symm.trans hzero)

/-- A client with four bytes of room that expects complements, and a server with two bytes of room
that sends back what it got. Both keep silent about the empty datagram. Of the five bytes after it
two come back, which are wrong from the first one on. -/
theorem run_disagreeing_oversize :
    ValidBufferSize 4 ∧ ValidBufferSize 2 ∧
      Config.standard.timeout = some (.ofMilliseconds 2000) ∧
      (run { Config.standard with bufferSize := 4, contract := { transform := .invert } }
          [[], [1, 2, 3, 4, 5], [6]]
          { peer := .serving { Server.Config.standard with bufferSize := 2 }.endpoint }).result =
        .error (.failure (.validation 1 ⟨5, 2, some 0⟩)) := by
  refine ⟨by decide, by decide, rfl, ?_⟩
  have hrun := (run_disagreeing
    { Config.standard with bufferSize := 4, contract := { transform := .invert } }
    { Server.Config.standard with bufferSize := 2 } (by decide) (by decide) rfl
    [[], [1, 2, 3, 4, 5], [6]]).2.1 [[]] [1, 2, 3, 4, 5] [[6]] rfl (by decide) (by decide)
  exact hrun.2.1 (by decide) (by decide) (by decide)

/-- A difference does not always show as the mismatch that it is. A client that is told to wait for
no time at all gives up before it sees the wrong reply. And a client that cannot bind its socket
compares nothing. -/
theorem not_run_disagreeing_of_zero :
    let client :=
      { Config.standard with timeout := some .zero, contract := { transform := .invert } }
    let server := Server.Config.standard
    let elsewhere : SocketAddress := .v6 ⟨#v[0x2001, 0xdb8, 0, 0, 0, 0, 0, 1]⟩ 0 0
    let result := (run client [[97]] { peer := .serving server.endpoint }).result
    ValidBufferSize client.bufferSize ∧ ValidBufferSize server.bufferSize ∧
      client.timeout = some .zero ∧ client.contract.Exposes server.contract [97] ∧
      result = .error (.failure (.transport 0 .receive .zeroTimeout)) ∧
      result ≠ .error (.failure (.validation 0 ⟨1, 1, some 0⟩)) ∧
      connect .isolated { Config.standard with
          bind := elsewhere, contract := { transform := .invert } } =
        .error (.bind elsewhere .addressNotAvailable) := by
  intro client server elsewhere result
  have hresult : result = .error (.failure (.transport 0 .receive .zeroTimeout)) := rfl
  refine ⟨by decide, by decide, rfl, by decide, hresult, ?_, rfl⟩
  rw [hresult]
  exact nofun

end Client

end DatagramEcho

import DatagramEcho.Proofs.Client.Passage

/-!
# What a client accepts as a reply

Replies that fit the client's buffer have to match byte for byte. But the client sees a datagram
only after its buffer has cut it, and the buffer has room for no byte more than the capacity that
the check allows. So where the expected reply fills the buffer exactly, a longer datagram that
begins with it looks the same.

* `take_eq_iff`: the datagrams that a cut turns into the expected reply.
* `passes_iff_take_eq` and `failsAt_of_take_ne`: the client's decision in terms of the cut.
* `passes_iff_eq_or_extends`: the datagrams on which an exchange succeeds.
* `exact_unless_full`: the decision is exact, unless the reply fills the buffer and the datagram
  extends it.
* `not_exact_of_full`: one byte too many goes unnoticed, and with a timeout of zero nothing passes.
-/

namespace DatagramEcho

/-- A cut gives `list` if there was nothing to cut, or if `list` fills the room that is left and
something was cut off behind it. -/
theorem take_eq_iff {α : Type} {size : ℕ} {list longer : List α} (hroom : list.length ≤ size) :
    longer.take size = list ↔
      longer = list ∨ (list.length = size ∧ list <+: longer ∧ longer ≠ list) := by
  constructor
  -- either nothing was cut off, or the cut filled the room
  · rintro rfl
    by_cases hwhole : longer.length ≤ size
    · exact Or.inl (List.take_of_length_le hwhole).symm
    · refine Or.inr ⟨by rw [List.length_take]; omega, List.take_prefix _ _, fun heq => ?_⟩
      have hlength := congrArg List.length heq
      rw [List.length_take] at hlength
      omega
  · rintro (rfl | ⟨rfl, hprefix, -⟩)
    · exact List.take_of_length_le hroom
    · exact (List.prefix_iff_eq_take.mp hprefix).symm

namespace Link

/-- Nothing comes from nobody: a link without a peer has no datagram on its way. -/
def Quiet (link : Link) : Prop :=
  link.peer = .absent → link.queue = []

variable {link sent : Link} {payload : Payload}

/-- A send keeps a link without a peer quiet. -/
theorem Quiet.send (hquiet : link.Quiet) (hsend : link.send payload = .ok sent) : sent.Quiet := by
  rw [link.send_of_length_le (length_le_of_send_eq_ok hsend)] at hsend
  cases hsend
  intro habsent
  cases hpeer : link.peer with
  | absent => simp [Peer.answer, hquiet hpeer]
  | serving endpoint => simp [hpeer, Peer.answer] at habsent
  | scripted answers => cases answers <;> simp [hpeer, Peer.answer] at habsent

/-- A wait keeps a link without a peer quiet. -/
theorem Quiet.await (hquiet : link.Quiet) (patience : Option TimeSpan) (capacity : ℕ) :
    (link.await patience capacity).2.Quiet := by
  by_cases hpatience : patience = some .zero
  · rw [hpatience, await_zero]
    exact hquiet
  · by_cases hpeer : link.peer = .absent
    · rw [await_of_absent link hpatience hpeer]
      exact hquiet
    · rw [await_of_ne_absent hpatience hpeer]
      exact fun habsent => absurd habsent hpeer

/-- A datagram that is on its way comes from somebody. -/
theorem Quiet.ne_absent (hquiet : link.Quiet) {datagram : Payload} {later : List Payload}
    (hqueue : link.queue = datagram :: later) : link.peer ≠ .absent := by
  intro habsent
  rw [hquiet habsent] at hqueue
  cases hqueue

end Link

namespace Client

variable {config : Config} {index : ℕ} {payload expected datagram : Payload}
  {before script : Script} {later : List Payload} {peer : Peer} {link sent : Link}
  {earlier : Report}

/-- An exchange keeps a link without a peer quiet. -/
theorem quiet_exchange (hquiet : link.Quiet) : (exchange config index payload link).link.Quiet := by
  cases hsend : link.send payload with
  | error fault => rw [exchange_of_send_eq_error hsend]; exact hquiet
  | ok sent => rw [exchange_of_send_eq_ok hsend]; exact (hquiet.send hsend).await _ _

/-- A run keeps a link without a peer quiet. -/
theorem quiet_runFrom (hquiet : link.Quiet) : (runFrom config index script link).link.Quiet := by
  induction script generalizing index link with
  | nil => exact hquiet
  | cons payload script ih =>
    cases hfirst : (exchange config index payload link).result with
    | error halt => rw [runFrom_cons_of_error hfirst]; exact quiet_exchange hquiet
    | ok first => rw [runFrom_cons_of_ok hfirst]; exact ih (quiet_exchange hquiet)

/-- The exchange that a run comes to finds the oldest datagram that is on its way. -/
theorem result_exchange_of_queue (hwaits : ¬ config.Refuses payload)
    (hsend : (run config before { peer }).link.send payload = .ok sent)
    (hqueue : sent.queue = datagram :: later) :
    (exchange config index payload (run config before { peer }).link).result =
      verdict config index payload (some datagram) := by
  -- a wait could fail only where nobody is at the other end, but then nothing would be on its way
  have hstart : Link.Quiet { peer } := fun _ => rfl
  have hpeer := ((quiet_runFrom hstart).send hsend).ne_absent hqueue
  rw [result_exchange hwaits hsend hpeer, hqueue, List.head?_cons]

section Decision

variable (hwaits : ¬ config.Refuses payload)
  (hbefore : (run config before { peer }).result = .ok earlier)
  (hreply : config.contract.reply? payload = some expected)
  (hsend : (run config before { peer }).link.send payload = .ok sent)
  (hqueue : sent.queue = datagram :: later)

include hwaits hbefore hreply hsend hqueue

/-- Where the expected reply fits the buffer, a run passes if the buffer cuts the datagram to it. -/
theorem passes_iff_take_eq (hfits : expected.length ≤ config.bufferSize) :
    (∃ entry, Passes config { peer } before payload entry) ↔
      datagram.take config.bufferSize = expected := by
  simp only [passes_iff hbefore, result_exchange_of_queue hwaits hsend hqueue,
    verdict_reply_some hreply]
  have hcheck := checkReply_eq_ok_iff config.bufferSize expected (datagram.take config.bufferSize)
  have hnot : ¬ config.bufferSize < expected.length := Nat.not_lt_of_le hfits
  simp only [hfits, hnot, true_and, false_and, or_false] at hcheck
  rw [← hcheck]
  cases checkReply config.bufferSize expected (datagram.take config.bufferSize) <;> simp

/-- Where the buffer cuts the datagram to anything else, the run fails there. -/
theorem failsAt_of_take_ne (hfits : expected.length ≤ config.bufferSize)
    (hne : datagram.take config.bufferSize ≠ expected) :
    ∃ mismatch, FailsAt config { peer } before payload (.validation before.length mismatch) := by
  have hnot := mt (passes_iff_take_eq hwaits hbefore hreply hsend hqueue hfits).mp hne
  simp only [passes_iff hbefore, failsAt_iff hbefore,
    result_exchange_of_queue hwaits hsend hqueue, verdict_reply_some hreply] at hnot ⊢
  cases hcheck : checkReply config.bufferSize expected (datagram.take config.bufferSize) with
  | error mismatch => exact ⟨mismatch, rfl⟩
  | ok => simp [hcheck] at hnot

/-- Where the expected reply fits the buffer, a run passes on that reply, and on a datagram that
extends it if the buffer is full with it. -/
theorem passes_iff_eq_or_extends (hfits : expected.length ≤ config.bufferSize) :
    (∃ entry, Passes config { peer } before payload entry) ↔
      datagram = expected ∨
        (expected.length = config.bufferSize ∧ expected <+: datagram ∧ datagram ≠ expected) :=
  (passes_iff_take_eq hwaits hbefore hreply hsend hqueue hfits).trans (take_eq_iff hfits)

end Decision

/-- At an exchange that a run comes to, let a reply be due that fits the client's buffer, and let
`datagram` be the next one on its way. Unless the reply fills the buffer and `datagram` is a longer
one that begins with it, the exchange succeeds exactly on the expected reply, and fails the check on
everything else. Where the timeout is zero, it fails before any datagram is looked at. The timeout
of a client that was configured is never zero (`timeout_ne_zero_of_load`). -/
theorem exact_unless_full (config : Config) (peer : Peer) (before : Script) {earlier : Report}
    (hbefore : (run config before { peer }).result = .ok earlier)
    (payload : Payload) {expected : Payload}
    (hreply : config.contract.reply? payload = some expected)
    (hfits : expected.length ≤ config.bufferSize)
    {sent : Link} (hsend : (run config before { peer }).link.send payload = .ok sent)
    (datagram : Payload) {later : List Payload} (hqueue : sent.queue = datagram :: later) :
    let passes := ∃ entry, Passes config { peer } before payload entry
    let fails := ∃ mismatch,
      FailsAt config { peer } before payload (.validation before.length mismatch)
    let full := expected.length = config.bufferSize ∧ expected <+: datagram ∧ datagram ≠ expected
    (config.timeout ≠ some .zero → ¬ full →
      (passes ↔ datagram = expected) ∧ (datagram ≠ expected → fails)) ∧
    (config.timeout = some .zero →
      FailsAt config { peer } before payload (.transport before.length .receive .zeroTimeout)) := by
  intro passes fails full
  refine ⟨fun htimeout hroom => ?_, fun hzero => ?_⟩
  · have hwaits : ¬ config.Refuses payload := Config.not_refuses_of_timeout_ne_zero htimeout
    have hpasses : passes ↔ datagram = expected ∨ full :=
      passes_iff_eq_or_extends hwaits hbefore hreply hsend hqueue hfits
    refine ⟨hpasses.trans (or_iff_left hroom), fun hne => ?_⟩
    -- the decision sees the datagram only through the cut, which `take_eq_iff` undoes
    apply failsAt_of_take_ne hwaits hbefore hreply hsend hqueue hfits
    rw [Ne, take_eq_iff hfits]
    exact not_or_intro hne hroom
  · have hexpects := (config.contract.expects_iff payload).mpr ⟨expected, hreply⟩
    rw [failsAt_iff hbefore]
    exact result_exchange_of_refuses ⟨hzero, hexpects⟩ hsend

/-- With room for one byte more than the reply has, a byte too many is noticed. -/
theorem exact_unless_full_of_room :
    (run { Config.standard with bufferSize := 2 } []
        { peer := .scripted [[[97, 98]]] }).result = .ok {} ∧
      ({ Config.standard with bufferSize := 2 } : Config).contract.reply? [97] = some [97] ∧
      ∃ mismatch, FailsAt { Config.standard with bufferSize := 2 }
        { peer := .scripted [[[97, 98]]] } [] [97] (.validation 0 mismatch) := by
  refine ⟨rfl, rfl, ?_⟩
  have hexact := exact_unless_full { Config.standard with bufferSize := 2 }
    (.scripted [[[97, 98]]]) [] rfl [97] rfl (by decide) rfl [97, 98] rfl
  exact (hexact.1 (by decide) (by decide)).2 (by decide)

/-- Not every client with a valid buffer takes the expected reply and nothing else. One that is told
to wait for no time at all does not take it. One with room for as many bytes as the reply has takes
a datagram with a byte too many. And one that cannot bind its socket takes nothing. -/
theorem not_exact_of_full :
    let hasty := { Config.standard with timeout := some .zero }
    let narrow := { Config.standard with bufferSize := 1 }
    let elsewhere : SocketAddress := .v6 ⟨#v[0x2001, 0xdb8, 0, 0, 0, 0, 0, 1]⟩ 0 0
    ValidBufferSize hasty.bufferSize ∧ hasty.contract.reply? [97] = some [97] ∧
      ¬ (∃ entry, Passes hasty { peer := .scripted [[[97]]] } [] [97] entry) ∧
      FailsAt hasty { peer := .scripted [[[97]]] } [] [97] (.transport 0 .receive .zeroTimeout) ∧
      ValidBufferSize narrow.bufferSize ∧ narrow.contract.reply? [97] = some [97] ∧
      ({ peer := .scripted [[[97, 98]]] } : Link).send [97] =
        .ok { peer := .scripted [], queue := [[97, 98]], requests := [[97]] } ∧
      Passes narrow { peer := .scripted [[[97, 98]]] } [] [97] ⟨0, 1, some 1⟩ ∧
      connect .isolated { Config.standard with bind := elsewhere } =
        .error (.bind elsewhere .addressNotAvailable) := by
  intro hasty narrow elsewhere
  refine ⟨by decide, rfl, ?_, ⟨⟨{}, rfl⟩, fun after => rfl⟩, by decide, rfl, rfl,
    ⟨{}, rfl, rfl⟩, rfl⟩
  rintro ⟨entry, earlier, -, hpassed⟩
  cases hpassed

end Client

end DatagramEcho

import DatagramEcho.Proofs.Server.Service
import DatagramEcho.Server.Loop.Readiness
import DatagramEcho.Server.Loop.Selecting

/-!
# What the event loops have in common

The readiness loop drains its socket inside of a batch of events; the selecting loop decides anew
before each datagram. Datagrams may arrive and the shutdown may be requested between any two steps,
in a batch with other events or before the loop has started. Seen from outside both loops do the
same: they account for the datagrams in the order of arrival, one at a time.

* `ReadinessLoop.Invariant` and `SelectingLoop.Invariant`: what a step of each loop keeps.
* `ReadinessLoop.Reachable.exists_atRest` and `SelectingLoop.Reachable.exists_atRest`: no state is a
  dead end. Without a request to stop, all that has arrived can be served.
* `loops_account`: in every state of either loop the replies and the counters are those of the
  datagrams taken, up to the last one, and a loop only returns on request.
-/

namespace DatagramEcho.Server

/-- Every datagram that was taken is answered and counted. -/
def Service.Settled (contract : Contract) (capacity : ℕ) (service : Service) : Prop :=
  service.replies = contract.replies capacity service.taken ∧
    service.responder.counters = contract.ledgerOf capacity service.taken

/-- When no datagram is in handling, a service is settled. -/
theorem Service.Lawful.settled {contract : Contract} {capacity : ℕ} {service : Service}
    (hlawful : service.Lawful contract capacity) (hfree : service.handling = .free) :
    service.Settled contract capacity := by
  have haccounts := hlawful.accounts
  rw [hfree] at haccounts
  exact Service.Accounts.free_iff.mp haccounts

variable {contract : Contract} {capacity : ℕ}

namespace ReadinessLoop

variable {mayBlock : Bool} {state next : State}

/-- What every state of the readiness loop has in common. Where sends never block, a datagram is in
handling only while the socket is drained. -/
structure Invariant (mayBlock : Bool) (contract : Contract) (capacity : ℕ) (state : State) :
    Prop where
  /-- The service keeps its accounts. -/
  lawful : state.service.Lawful contract capacity
  /-- The loop returns only on request. -/
  requested : state.control = .stopped → state.service.stopRequested = true
  /-- Outside of the draining nothing is in handling, unless a reply is parked. -/
  free : mayBlock = false → (∀ events, state.control ≠ .draining events) →
    state.service.handling = .free

/-- Every step keeps the invariant. -/
theorem Invariant.step (hinvariant : Invariant mayBlock contract capacity state)
    (hstep : Step mayBlock state next) : Invariant mayBlock contract capacity next := by
  obtain ⟨hlawful, hrequested, hfree⟩ := hinvariant
  cases hstep with
  | outside houtside =>
    refine ⟨hlawful.outside houtside, fun hstopped => houtside.stopRequested (hrequested hstopped),
      fun hblock hcontrol => ?_⟩
    rw [houtside.handling_eq]
    exact hfree hblock hcontrol
  | poll events => exact ⟨hlawful, nofun, fun hblock _ => hfree hblock nofun⟩
  | wait => exact ⟨hlawful, nofun, fun hblock _ => hfree hblock nofun⟩
  | stop hstop => exact ⟨hlawful, fun _ => hstop, fun hblock _ => hfree hblock nofun⟩
  | ignore hstop => exact ⟨hlawful, nofun, fun hblock _ => hfree hblock nofun⟩
  | drain hready => exact ⟨hlawful, nofun, fun _ hcontrol => absurd rfl (hcontrol _)⟩
  | hold hparked => exact ⟨hlawful, nofun, fun hblock _ => hfree hblock nofun⟩
  | take hnone hqueue =>
    exact ⟨hlawful.take hnone hqueue, nofun, fun _ hcontrol => absurd rfl (hcontrol _)⟩
  | handle hhandle =>
    exact ⟨hlawful.handle hhandle, nofun, fun _ hcontrol => absurd rfl (hcontrol _)⟩
  -- the one step that leaves the draining with a datagram in handling
  | park hblocks hdue =>
    refine ⟨hlawful, nofun, fun hblock _ => ?_⟩
    rw [hblock] at hblocks
    cases hblocks
  | drained hnone hempty => exact ⟨hlawful, nofun, fun _ _ => hnone⟩

/-- The invariant holds in every state that the loop comes to. -/
theorem Reachable.invariant (hreachable : Reachable mayBlock capacity { contract } state) :
    Invariant mayBlock contract capacity state := by
  induction hreachable with
  | start waiting stopRequested =>
    exact ⟨.start contract capacity waiting stopRequested, nofun, fun _ _ => rfl⟩
  | step _ hstep ih => exact ih.step hstep

/-! ### Progress -/

/-- What a reachable state leads to is reachable. -/
theorem Reachable.trans {responder : Responder}
    (hreachable : Reachable mayBlock capacity responder state)
    (hsteps : Relation.ReflTransGen (Step mayBlock) state next) :
    Reachable mayBlock capacity responder next :=
  hsteps.rec hreachable fun _ hstep hreachable => hreachable.step hstep

/-- A socket that is being drained can be drained to its end. -/
theorem exists_drained (mayBlock : Bool) (events : List Readiness) (service : Service) :
    ∃ next, Relation.ReflTransGen (Step mayBlock) ⟨.draining events, service⟩
        ⟨.batch events, next⟩ ∧
      next.AtRest service.arrived ∧ next.stopRequested = service.stopRequested := by
  obtain ⟨next, hleads, hrest, hstop⟩ := Service.exists_served
    (fun next => Relation.ReflTransGen (Step mayBlock) ⟨.draining events, service⟩
      ⟨.draining events, next⟩)
    (fun hleads hfree hqueue => hleads.tail (.take hfree hqueue))
    (fun hleads hhandle => hleads.tail (.handle hhandle)) .refl
  exact ⟨next, hleads.tail (.drained hrest.handling_eq hrest.queue_eq), hrest, hstop⟩

/-- Without a request to stop, a batch can be worked through to its end. -/
theorem exists_polling (mayBlock : Bool) (events : List Readiness) {service : Service}
    (hstop : service.stopRequested = false) :
    ∃ next, Relation.ReflTransGen (Step mayBlock) ⟨.batch events, service⟩ ⟨.polling, next⟩ ∧
      next.arrived = service.arrived := by
  induction events generalizing service with
  | nil => exact ⟨service, .single .wait, rfl⟩
  | cons event events ih =>
    cases event with
    | woken =>
      obtain ⟨next, hsteps, harrived⟩ := ih hstop
      exact ⟨next, hsteps.head (.ignore hstop), harrived⟩
    | socket writable =>
      by_cases hready : service.handling = .free ∨ writable = true
      · obtain ⟨drained, hdrains, hrest, hdrainedStop⟩ := exists_drained mayBlock events service
        obtain ⟨next, hsteps, harrived⟩ := ih (hdrainedStop.trans hstop)
        exact ⟨next, (hdrains.head (.drain hready)).trans hsteps, harrived.trans hrest.arrived_eq⟩
      -- a reply is parked, and the event says nothing of room for it
      · obtain ⟨hparked, hfull⟩ := not_or.mp hready
        obtain rfl := Bool.eq_false_iff.mpr hfull
        obtain ⟨next, hsteps, harrived⟩ := ih hstop
        exact ⟨next, hsteps.head (.hold hparked), harrived⟩

/-- A loop that waits can serve all that has arrived, also where a reply is parked. -/
theorem exists_atRest_of_polling (mayBlock : Bool) (service : Service) :
    ∃ next, Relation.ReflTransGen (Step mayBlock) ⟨.polling, service⟩ ⟨.polling, next⟩ ∧
      next.AtRest service.arrived := by
  obtain ⟨next, hdrains, hrest, -⟩ := exists_drained mayBlock [] service
  exact ⟨next, ((hdrains.head (.drain (.inr rfl))).head (.poll [.socket true])).tail .wait, hrest⟩

/-- Wherever the loop has come to, it can serve all that has arrived and wait again, unless the
shutdown was requested. -/
theorem Reachable.exists_atRest (hreachable : Reachable mayBlock capacity { contract } state)
    (hstop : state.service.stopRequested = false) :
    ∃ service, Relation.ReflTransGen (Step mayBlock) state ⟨.polling, service⟩ ∧
      service.AtRest state.service.arrived := by
  have hwaits : ∃ service, Relation.ReflTransGen (Step mayBlock) state ⟨.polling, service⟩ ∧
      service.arrived = state.service.arrived := by
    obtain ⟨control, service⟩ := state
    cases control with
    | polling => exact ⟨service, .refl, rfl⟩
    | batch events => exact exists_polling mayBlock events hstop
    | draining events =>
      obtain ⟨drained, hdrains, hrest, hdrainedStop⟩ := exists_drained mayBlock events service
      obtain ⟨next, hsteps, harrived⟩ := exists_polling mayBlock events (hdrainedStop.trans hstop)
      exact ⟨next, hdrains.trans hsteps, harrived.trans hrest.arrived_eq⟩
    | stopped =>
      -- the loop returns only on request
      have hrequested : service.stopRequested = true := hreachable.invariant.requested rfl
      exact absurd hrequested (Bool.eq_false_iff.mp hstop)
  obtain ⟨service, hsteps, harrived⟩ := hwaits
  obtain ⟨next, hserves, hrest⟩ := exists_atRest_of_polling mayBlock service
  rw [← harrived]
  exact ⟨next, hsteps.trans hserves, hrest⟩

end ReadinessLoop

namespace SelectingLoop

variable {state next : State}

/-- What every state of the selecting loop has in common. A datagram is in handling only between its
choice and the next one. -/
structure Invariant (contract : Contract) (capacity : ℕ) (state : State) : Prop where
  /-- The service keeps its accounts. -/
  lawful : state.service.Lawful contract capacity
  /-- The loop returns only on request. -/
  requested : state.control = .stopped → state.service.stopRequested = true
  /-- Nothing is in handling where the loop waits, or has returned. -/
  free : state.control ≠ .handling → state.service.handling = .free

/-- Every step keeps the invariant. -/
theorem Invariant.step (hinvariant : Invariant contract capacity state)
    (hstep : Step state next) : Invariant contract capacity next := by
  obtain ⟨hlawful, hrequested, hfree⟩ := hinvariant
  cases hstep with
  | outside houtside =>
    refine ⟨hlawful.outside houtside, fun hstopped => houtside.stopRequested (hrequested hstopped),
      fun hcontrol => ?_⟩
    rw [houtside.handling_eq]
    exact hfree hcontrol
  | stop hstop => exact ⟨hlawful, fun _ => hstop, fun _ => hfree nofun⟩
  | take hqueue =>
    exact ⟨hlawful.take (hfree nofun) hqueue, nofun, fun hcontrol => absurd rfl hcontrol⟩
  | handle hhandle => exact ⟨hlawful.handle hhandle, nofun, fun hcontrol => absurd rfl hcontrol⟩
  | wait hnone => exact ⟨hlawful, nofun, fun _ => hnone⟩

/-- The invariant holds in every state that the loop comes to. -/
theorem Reachable.invariant (hreachable : Reachable capacity { contract } state) :
    Invariant contract capacity state := by
  induction hreachable with
  | start waiting stopRequested =>
    exact ⟨.start contract capacity waiting stopRequested, nofun, fun _ => rfl⟩
  | step _ hstep ih => exact ih.step hstep

/-! ### Progress -/

/-- What a reachable state leads to is reachable. -/
theorem Reachable.trans {responder : Responder} (hreachable : Reachable capacity responder state)
    (hsteps : Relation.ReflTransGen Step state next) : Reachable capacity responder next :=
  hsteps.rec hreachable fun _ hstep hreachable => hreachable.step hstep

/-- A datagram in handling can be served, and all others after it. -/
theorem exists_atRest_of_handling (service : Service) :
    ∃ next, Relation.ReflTransGen Step ⟨.handling, service⟩ ⟨.selecting, next⟩ ∧
      next.AtRest service.arrived := by
  -- between two datagrams the loop waits
  obtain ⟨next, hleads, hrest, -⟩ := Service.exists_served
    (fun next => Relation.ReflTransGen Step ⟨.handling, service⟩ ⟨.handling, next⟩)
    (fun hleads hfree hqueue => (hleads.tail (.wait hfree)).tail (.take hqueue))
    (fun hleads hhandle => hleads.tail (.handle hhandle)) .refl
  exact ⟨next, hleads.tail (.wait hrest.handling_eq), hrest⟩

/-- Wherever the loop has come to, it can serve all that has arrived and wait again, unless the
shutdown was requested. -/
theorem Reachable.exists_atRest (hreachable : Reachable capacity { contract } state)
    (hstop : state.service.stopRequested = false) :
    ∃ service, Relation.ReflTransGen Step state ⟨.selecting, service⟩ ∧
      service.AtRest state.service.arrived := by
  obtain ⟨-, hrequested, hfree⟩ := hreachable.invariant
  obtain ⟨control, service⟩ := state
  cases control with
  | selecting =>
    cases hqueue : service.queue with
    | nil => exact ⟨service, .refl, rfl, hqueue, hfree nofun⟩
    | cons parcel later =>
      obtain ⟨next, hsteps, hrest⟩ := exists_atRest_of_handling (service.take parcel later)
      exact ⟨next, hsteps.head (.take hqueue), hrest⟩
  | handling => exact exists_atRest_of_handling service
  | stopped => exact absurd (hrequested rfl) (Bool.eq_false_iff.mp hstop)

end SelectingLoop

/-- In every state of either loop the datagrams taken are the first ones that arrived. All of them
but the last are answered, in order and each to its sender, and counted, and the last one has come
as far as the handling tells. A loop returns only after the shutdown was requested. The selecting
loop never does so while a datagram is in handling, and neither does the readiness loop where sends
do not block. -/
theorem loops_account (contract : Contract) (capacity : ℕ) :
    (∀ mayBlock state, ReadinessLoop.Reachable mayBlock capacity { contract } state →
      let service := state.service
      service.taken <+: service.arrived ∧
        Service.Accounts contract capacity service.taken service.handling service.replies
          service.responder.counters ∧
        (state.control = .stopped → service.stopRequested = true ∧
          (mayBlock = false → service.Settled contract capacity))) ∧
      ∀ state, SelectingLoop.Reachable capacity { contract } state →
        let service := state.service
        service.taken <+: service.arrived ∧
          Service.Accounts contract capacity service.taken service.handling service.replies
            service.responder.counters ∧
          (state.control = .stopped → service.stopRequested = true ∧
            service.Settled contract capacity) := by
  constructor
  · intro mayBlock state hreachable service
    obtain ⟨hlawful, hrequested, hfree⟩ := hreachable.invariant
    refine ⟨hlawful.taken_prefix, hlawful.accounts, fun hstopped => ⟨hrequested hstopped, ?_⟩⟩
    intro hblock
    exact hlawful.settled (hfree hblock fun events => by rw [hstopped]; nofun)
  · intro state hreachable service
    obtain ⟨hlawful, hrequested, hfree⟩ := hreachable.invariant
    refine ⟨hlawful.taken_prefix, hlawful.accounts, fun hstopped => ⟨hrequested hstopped, ?_⟩⟩
    exact hlawful.settled (hfree (by rw [hstopped]; nofun))

/-- A loop that finds a datagram and the shutdown request waiting. The readiness loop gets both in
one batch and serves the datagram first; so may the selecting loop. -/
theorem loops_account_on_stop :
    (∃ state, ReadinessLoop.Reachable false 2 { contract := {} } state ∧
      state.control = .stopped ∧ state.service.replies = [⟨7, [1, 2]⟩] ∧
      state.service.Settled {} 2) ∧
      ∃ state, SelectingLoop.Reachable 2 { contract := {} } state ∧
        state.control = .stopped ∧ state.service.replies = [⟨7, [1, 2]⟩] ∧
        state.service.Settled {} 2 := by
  constructor
  · have hstart : ReadinessLoop.Reachable false 2 { contract := {} }
        ⟨.polling, .start 2 { contract := {} } [⟨7, [1, 2, 3]⟩] true⟩ := .start _ _
    have htaken := ((hstart.step (.poll [.socket false, .woken])).step (.drain (.inl rfl))).step
      (.take rfl rfl)
    have hserved := ((htaken.step (.handle (.count rfl))).step (.handle (.send rfl))).step
      (.handle (.book rfl))
    have hstopped := (hserved.step (.drained rfl rfl)).step (.stop rfl)
    exact ⟨_, hstopped, rfl, rfl, (((loops_account {} 2).1 false _ hstopped).2.2 rfl).2 rfl⟩
  · have hstart : SelectingLoop.Reachable 2 { contract := {} }
        ⟨.selecting, .start 2 { contract := {} } [⟨7, [1, 2, 3]⟩] true⟩ := .start _ _
    have htaken := hstart.step (.take rfl)
    have hserved := ((htaken.step (.handle (.count rfl))).step (.handle (.send rfl))).step
      (.handle (.book rfl))
    have hstopped := (hserved.step (.wait rfl)).step (.stop rfl)
    exact ⟨_, hstopped, rfl, rfl, (((loops_account {} 2).2 _ hstopped).2.2 rfl).2⟩

end DatagramEcho.Server

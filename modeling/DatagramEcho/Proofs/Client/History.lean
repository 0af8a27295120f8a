import DatagramEcho.Proofs.Client.Trace
import Mathlib.Data.List.Chain
import Mathlib.Data.List.Iterate

/-!
# The histories of a client

A client begins idle, and from then on may only go from one phase to the next as
`Phase.canAdvanceTo` allows. That leaves it no choice but when to end and how: up to there its
history is the beginning of one and the same sequence of phases,

`idle, sending 0, awaiting 0, checking 0, sending 1, awaiting 1, checking 1, …`

* `opening`: the first phases of that sequence.
* `canAdvanceTo_iff`: what one step can do. It goes on to the phase that follows, or it ends.
* `History`: the beginnings of the sequence, alone or with an end.
* `legal_iff_history`: these are all the histories that are allowed.
* `history_determined`: what a history says about the phases before its last one.
-/

namespace DatagramEcho.Client.Phase

/-- The phase after this one in a run that goes on. -/
def following : Phase → Phase
  | idle => sending 0
  | sending index => awaiting index
  | awaiting index => checking index
  | checking index => sending (index + 1)
  | done => done
  | failed index => failed index

/-- The first `count` phases of a run that goes on. -/
def opening (count : ℕ) : List Phase :=
  (idle :: rounds 0 count).take count

/-- A run may be done after this phase. -/
def MayEnd (phase : Phase) : Prop :=
  phase = idle ∨ ∃ index, phase = checking index

/-- What may come after the last phase of a run that went on up to there. -/
inductive Ends : Phase → List Phase → Prop
  /-- Nothing has come yet. -/
  | underway {last : Phase} : Ends last []
  /-- The run is done. -/
  | done {last : Phase} (hend : last.MayEnd) : Ends last [.done]
  /-- The run has failed, whatever index it names. -/
  | failed {last : Phase} (index : ℕ) : Ends last [.failed index]

/-- The beginning of a run that goes on, with an end or without one. -/
inductive History : List Phase → Prop
  | begun {count : ℕ} {last : Phase} {ending : List Phase}
    (hlast : (opening (count + 1)).getLast? = some last) (hends : Ends last ending) :
    History (opening (count + 1) ++ ending)

/-- The index of a check. -/
def checked? : Phase → Option ℕ
  | checking index => some index
  | _ => none

/-- The first index whose check has not passed when a phase is entered. -/
def unchecked : Phase → ℕ
  | sending index | awaiting index | checking index => index
  | _ => 0

variable {phase next last : Phase} {path before after rest ending : List Phase} {index : ℕ}

/-! ### One step -/

theorem isFinal_following (phase : Phase) : phase.following.isFinal = phase.isFinal := by
  cases phase <;> rfl

/-- A step leads to the phase that follows, or to an end. Nothing follows an end. -/
theorem canAdvanceTo_iff :
    phase.canAdvanceTo next ↔ phase.isFinal = false ∧
      (next = phase.following ∨ next = .done ∧ phase.MayEnd ∨ ∃ index, next = .failed index) := by
  cases phase <;> cases next <;> simp [canAdvanceTo, isFinal, following, MayEnd]
  all_goals exact eq_comm

/-- A next phase that is no end is the one that follows. -/
theorem eq_following_of_legal (hlegal : Legal (phase :: next :: rest))
    (hnext : next.isFinal = false) : next = phase.following := by
  obtain ⟨-, hstep⟩ := canAdvanceTo_iff.mp (List.isChain_cons_cons.mp hlegal).1
  rcases hstep with hfollowing | ⟨rfl, -⟩ | ⟨index, rfl⟩
  · exact hfollowing
  · cases hnext
  · cases hnext

theorem eq_nil_of_legal_of_isFinal (hlegal : Legal (phase :: rest)) (hphase : phase.isFinal) :
    rest = [] := by
  cases rest with
  | nil => rfl
  | cons next rest =>
    have hstep := canAdvanceTo_iff.mp (List.isChain_cons_cons.mp hlegal).1
    rw [hphase] at hstep
    cases hstep.1

/-! ### Whole paths -/

/-- From a phase that is no end, a path goes on for a while, and then it may end. -/
theorem legal_cons_iff (hphase : phase.isFinal = false) :
    Legal (phase :: rest) ↔ ∃ count ending,
      phase :: rest = List.iterate following phase (count + 1) ++ ending ∧
        Ends (following^[count] phase) ending := by
  constructor
  · intro hlegal
    -- as long as the next phase is no end, the path from there on goes on in the same way
    induction rest generalizing phase with
    | nil => exact ⟨0, [], rfl, .underway⟩
    | cons next rest ih =>
      obtain ⟨hstep, hrest⟩ := List.isChain_cons_cons.mp hlegal
      rcases (canAdvanceTo_iff.mp hstep).2 with rfl | ⟨rfl, hend⟩ | ⟨index, rfl⟩
      · obtain ⟨count, ending, hpath, hends⟩ :=
          ih ((isFinal_following phase).trans hphase) hrest
        refine ⟨count + 1, ending, ?_, hends⟩
        rw [hpath]
        rfl
      · obtain rfl := eq_nil_of_legal_of_isFinal hrest rfl
        exact ⟨0, _, rfl, .done hend⟩
      · obtain rfl := eq_nil_of_legal_of_isFinal hrest rfl
        exact ⟨0, _, rfl, .failed index⟩
  · rintro ⟨count, ending, hpath, hends⟩
    rw [hpath]
    clear hpath
    induction count generalizing phase with
    | zero =>
      change Legal (phase :: ending)
      change Ends phase ending at hends
      cases hends with
      | underway => simp [Legal]
      | done hend => simpa [Legal] using canAdvanceTo_iff.mpr ⟨hphase, .inr (.inl ⟨rfl, hend⟩)⟩
      | failed index =>
        simpa [Legal] using canAdvanceTo_iff.mpr ⟨hphase, .inr (.inr ⟨index, rfl⟩)⟩
    | succ count ih =>
      have hlater := ih ((isFinal_following phase).trans hphase) hends
      exact List.isChain_cons_cons.mpr ⟨canAdvanceTo_iff.mpr ⟨hphase, .inl rfl⟩, hlater⟩

/-- The rounds of a run are what follows, three phases for each. -/
theorem iterate_following_sending (first count : ℕ) :
    List.iterate following (.sending first) (3 * count) = rounds first count := by
  induction count generalizing first with
  | zero => rfl
  | succ count ih =>
    rw [rounds_succ, ← ih]
    rfl

theorem opening_eq_iterate (count : ℕ) : opening count = List.iterate following .idle count := by
  have hrounds : idle :: rounds 0 count = List.iterate following .idle (3 * count + 1) := by
    rw [← iterate_following_sending]
    rfl
  rw [opening, hrounds, List.take_iterate]
  congr
  omega

theorem length_opening (count : ℕ) : (opening count).length = count := by
  rw [opening_eq_iterate, List.length_iterate]

theorem getLast?_opening_succ (count : ℕ) :
    (opening (count + 1)).getLast? = some (following^[count] .idle) := by
  rw [opening_eq_iterate, List.iterate_add]
  simp

/-- The paths from `idle` that are allowed are the histories. -/
theorem legal_iff_history (hstart : path.head? = some .idle) : Legal path ↔ History path := by
  obtain ⟨rest, rfl⟩ := List.head?_eq_some_iff.mp hstart
  rw [legal_cons_iff rfl]
  constructor
  · rintro ⟨count, ending, hpath, hends⟩
    rw [hpath, ← opening_eq_iterate]
    exact .begun (getLast?_opening_succ count) hends
  · generalize idle :: rest = path
    intro hhistory
    cases hhistory with
    | @begun count last ending hlast hends =>
      rw [getLast?_opening_succ, Option.some.injEq] at hlast
      subst hlast
      exact ⟨count, ending, by rw [opening_eq_iterate], hends⟩

theorem isFinal_of_getLast?_opening {count : ℕ}
    (hlast : (opening (count + 1)).getLast? = some last) :
    last.isFinal = false := by
  rw [getLast?_opening_succ, Option.some.injEq] at hlast
  subst hlast
  induction count with
  | zero => rfl
  | succ count ih => rw [Function.iterate_succ_apply', isFinal_following, ih]

/-- Either a history has no end, and is an opening, or only its last phase is an end. -/
theorem History.cases_of_append_singleton {front : List Phase}
    (hhistory : History (front ++ [last])) :
    (last.isFinal = false ∧ front ++ [last] = opening (front.length + 1)) ∨
      (last.isFinal ∧ front = opening front.length ∧
        ∃ previous, front.getLast? = some previous ∧ Ends previous [last]) := by
  generalize hpath : front ++ [last] = path at hhistory
  cases hhistory with
  | @begun count previous ending hprevious hends =>
    cases hends with
    | underway =>
      rw [List.append_nil] at hpath ⊢
      have hlength : front.length + 1 = count + 1 := by
        rw [← length_opening (count + 1), ← hpath, List.length_append, List.length_singleton]
      have hlast : (opening (count + 1)).getLast? = some last := by
        rw [← hpath, List.getLast?_concat]
      exact .inl ⟨isFinal_of_getLast?_opening hlast, by rw [hlength]⟩
    -- an end is one phase, so that the opening is what stands before it
    | done hend =>
      obtain ⟨rfl, hlast⟩ := List.append_inj' hpath rfl
      cases hlast
      exact .inr ⟨rfl, by rw [length_opening], previous, hprevious, .done hend⟩
    | failed index =>
      obtain ⟨rfl, hlast⟩ := List.append_inj' hpath rfl
      cases hlast
      exact .inr ⟨rfl, by rw [length_opening], previous, hprevious, .failed index⟩

/-- On the way to sending an index the checks of all indices before it are passed, one by one. -/
theorem filterMap_checked?_of_legal
    (hlegal : Legal (phase :: (before ++ .sending index :: after))) :
    (phase :: before).filterMap checked? = List.range' phase.unchecked (index - phase.unchecked) ∧
      phase.unchecked ≤ index := by
  -- the invariant is the first index that is left to check
  induction before generalizing phase with
  | nil =>
    have hsending := eq_following_of_legal hlegal rfl
    cases phase <;> cases hsending <;> simp [checked?, unchecked]
  | cons next before ih =>
    have hrest : Legal (next :: (before ++ .sending index :: after)) :=
      (List.isChain_cons_cons.mp hlegal).2
    have hnext : next.isFinal = false := by
      by_contra hfinal
      have hnil := eq_nil_of_legal_of_isFinal hrest (by simpa using hfinal)
      simp at hnil
    obtain rfl := eq_following_of_legal hlegal hnext
    obtain ⟨hchecked, hle⟩ := ih hrest
    rw [List.filterMap_cons, hchecked]
    cases phase with
    | checking first =>
      -- this check is the first of those that are left
      have hcount : index - first = index - (first + 1) + 1 := by
        simp only [following, unchecked] at hle
        omega
      simp only [checked?, following, unchecked, hcount, List.range'_succ, true_and]
      omega
    | _ => exact ⟨rfl, hle⟩

/-- A path from `idle` is allowed if and only if it is a history: the beginning of a run that goes
on, and then perhaps an end. Nothing follows an end. A path whose last phase is no end is the
opening of its length. In front of `done` there is an opening after which a run may be done, and in
front of a failure any opening that is not empty. Wherever an index is sent, the indices before it
have been checked, each once and in order. -/
theorem history_determined {path : List Phase} (hstart : path.head? = some .idle) :
    (Legal path ↔ History path) ∧ (Legal path →
      (∀ before phase after, path = before ++ phase :: after → phase.isFinal → after = []) ∧
      (∀ front last, path = front ++ [last] →
        (last.isFinal = false → path = opening path.length) ∧
        (last = .done → front = opening front.length ∧
          ∃ previous, front.getLast? = some previous ∧
            (previous = .idle ∨ ∃ index, previous = .checking index)) ∧
        ∀ index, last = .failed index → front = opening front.length ∧ front ≠ []) ∧
      ∀ before index after, path = before ++ .sending index :: after →
        before.filterMap checked? = List.range index) := by
  refine ⟨legal_iff_history hstart, fun hlegal => ⟨?_, ?_, ?_⟩⟩
  · rintro before phase after rfl hfinal
    exact eq_nil_of_legal_of_isFinal (List.IsChain.right_of_append hlegal) hfinal
  · rintro front last rfl
    have hhistory := (legal_iff_history hstart).mp hlegal
    rcases hhistory.cases_of_append_singleton with
      ⟨hlast, hopening⟩ | ⟨hlast, hfront, previous, hprevious, hends⟩
    · refine ⟨fun _ => ?_, ?_, ?_⟩
      · rw [hopening, length_opening]
      · rintro rfl
        cases hlast
      · rintro index rfl
        cases hlast
    · refine ⟨fun hopen => ?_, ?_, ?_⟩
      · rw [hlast] at hopen
        cases hopen
      · rintro rfl
        cases hends with
        | done hend => exact ⟨hfront, previous, hprevious, hend⟩
      · rintro index -
        refine ⟨hfront, ?_⟩
        rintro rfl
        cases hprevious
  · rintro before index after rfl
    -- the path begins with `idle`, before which nothing is checked
    cases before with
    | nil => cases hstart
    | cons phase before =>
      obtain rfl : phase = .idle := by simpa using hstart
      obtain ⟨hchecked, -⟩ := filterMap_checked?_of_legal hlegal
      rw [hchecked, List.range_eq_range']
      rfl

/-- A run whose second send fails may name any index in the end. -/
theorem history_determined_of_failed :
    let path := [.idle, .sending 0, .awaiting 0, .checking 0, .sending 1, .failed 7]
    path.head? = some Phase.idle ∧ Legal path ∧ path.dropLast = opening 5 ∧
      [Phase.idle, .sending 0, .awaiting 0, .checking 0].filterMap checked? = [0] := by
  intro path
  have hstart : path.head? = some .idle := rfl
  have hlegal : Legal path := by simp [path, Legal, canAdvanceTo, isFinal]
  obtain ⟨-, hends, hchecked⟩ := (history_determined hstart).2 hlegal
  refine ⟨hstart, hlegal, ?_, hchecked _ 1 [.failed 7] rfl⟩
  exact ((hends path.dropLast _ rfl).2.2 7 rfl).1

end DatagramEcho.Client.Phase

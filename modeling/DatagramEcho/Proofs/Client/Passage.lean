import DatagramEcho.Proofs.Client.Exchange

/-!
# The course of a run

A run takes its payloads one after another, and its first failure ends it. What becomes of a
payload is therefore settled by the payloads before it.

* `exists_of_runFrom_cons_eq_ok` and `cases_of_runFrom_cons_eq_error`: how a run can succeed, and
  how it can end early.
* `result_runFrom_append` and `link_runFrom_append`: a run goes on where a shorter run stopped.
* `Passes` and `FailsAt`: a run gets through a payload, or ends there. By `passes_iff` and
  `failsAt_iff` both are read off one exchange over the link that the earlier payloads leave.
* `Steady`: links over which the result of an exchange does not depend on the exchanges before it.
  `Steady.runFrom_of_forall_ok` and `Steady.result_run_of_error` are whole runs over such links.
-/

namespace DatagramEcho.Client

/-- Two reports, one after the other. -/
def Report.append (earlier later : Report) : Report :=
  ⟨earlier.exchanges ++ later.exchanges⟩

@[simp]
theorem Report.append_empty (report : Report) : report.append {} = report := by
  simp [append]

variable {config : Config} {index : ℕ} {payload : Payload} {before after script : Script}
  {link : Link} {halt : Halt}

/-! ## Payload by payload -/

/-- A run ends with an exchange that does not succeed. -/
theorem runFrom_cons_of_error (h : (exchange config index payload link).result = .error halt) :
    runFrom config index (payload :: script) link =
      { phases := (exchange config index payload link).phases ++ halt.phases index
        link := (exchange config index payload link).link
        result := .error halt } := by
  simp only [runFrom, h]

/-- A run goes on after an exchange that succeeds. -/
theorem runFrom_cons_of_ok {first : Exchange}
    (h : (exchange config index payload link).result = .ok first) :
    runFrom config index (payload :: script) link =
      let later := runFrom config (index + 1) script (exchange config index payload link).link
      { phases := (exchange config index payload link).phases ++ later.phases
        link := later.link
        result := later.result.map (Report.cons first) } := by
  simp only [runFrom, h]

/-- The result of a run whose first payload is `payload`, as far as that payload decides it. -/
theorem result_runFrom_cons :
    (runFrom config index (payload :: script) link).result =
      (exchange config index payload link).result.bind fun first =>
        (runFrom config (index + 1) script
          (exchange config index payload link).link).result.map (Report.cons first) := by
  cases hfirst : (exchange config index payload link).result with
  | error halt => rw [runFrom_cons_of_error hfirst]; rfl
  | ok first => rw [runFrom_cons_of_ok hfirst]; rfl

/-- A run succeeds only if its first exchange does, and the run of the other payloads as well. -/
theorem exists_of_runFrom_cons_eq_ok {report : Report}
    (hok : (runFrom config index (payload :: script) link).result = .ok report) :
    ∃ first later, report = .cons first later ∧
      (exchange config index payload link).result = .ok first ∧
      (runFrom config (index + 1) script (exchange config index payload link).link).result =
        .ok later := by
  rw [result_runFrom_cons] at hok
  cases hfirst : (exchange config index payload link).result with
  | error halt => rw [hfirst] at hok; cases hok
  | ok first =>
    cases hlater : (runFrom config (index + 1) script
        (exchange config index payload link).link).result with
    | error halt => rw [hfirst, hlater] at hok; cases hok
    | ok later => rw [hfirst, hlater] at hok; cases hok; exact ⟨first, later, rfl, rfl, rfl⟩

/-- A run ends early because its first exchange fails, or because the run of the other payloads
ends early. -/
theorem cases_of_runFrom_cons_eq_error
    (herror : (runFrom config index (payload :: script) link).result = .error halt) :
    (exchange config index payload link).result = .error halt ∨
      ∃ first, (exchange config index payload link).result = .ok first ∧
        (runFrom config (index + 1) script (exchange config index payload link).link).result =
          .error halt := by
  rw [result_runFrom_cons] at herror
  cases hfirst : (exchange config index payload link).result with
  | error halt => rw [hfirst] at herror; cases herror; exact Or.inl rfl
  | ok first =>
    cases hlater : (runFrom config (index + 1) script
        (exchange config index payload link).link).result with
    | error halt => rw [hfirst, hlater] at herror; cases herror; exact Or.inr ⟨first, rfl, rfl⟩
    | ok later => rw [hfirst, hlater] at herror; cases herror

/-- Only a client without a timeout can be left waiting forever. -/
theorem timeout_eq_none_of_stalled {awaited : ℕ}
    (hstalled : (runFrom config index script link).result = .error (.stalled awaited)) :
    config.timeout = none := by
  induction script generalizing index link with
  | nil => cases hstalled
  | cons payload script ih =>
    rcases cases_of_runFrom_cons_eq_error hstalled with hfirst | ⟨first, -, hlater⟩
    · exact timeout_eq_none_of_exchange_stalled hfirst
    · exact ih hlater

/-- The socket of a client with a timeout other than zero refuses no wait of a run. -/
theorem result_runFrom_ne_zeroTimeout (htimeout : config.timeout ≠ some .zero) (awaited : ℕ)
    (direction : Direction) :
    (runFrom config index script link).result ≠
      .error (.failure (.transport awaited direction .zeroTimeout)) := by
  intro hrefused
  induction script generalizing index link with
  | nil => cases hrefused
  | cons payload script ih =>
    rcases cases_of_runFrom_cons_eq_error hrefused with hfirst | ⟨first, -, hlater⟩
    · exact result_exchange_ne_zeroTimeout htimeout awaited direction hfirst
    · exact ih hlater

/-- A run of a client with a timeout comes to an end: it succeeds, or an exchange fails. -/
theorem exists_failure_of_ne_ok {waited : TimeSpan} (htimeout : config.timeout = some waited)
    (hfails : ∀ report, (runFrom config index script link).result ≠ .ok report) :
    ∃ failure, (runFrom config index script link).result = .error (.failure failure) := by
  cases hresult : (runFrom config index script link).result with
  | ok report => exact absurd hresult (hfails report)
  | error halt =>
    cases halt with
    | failure failure => exact ⟨failure, rfl⟩
    | stalled awaited => cases htimeout.symm.trans (timeout_eq_none_of_stalled hresult)

/-- A longer run goes on where a shorter one stopped, unless that one failed. -/
theorem result_runFrom_append :
    (runFrom config index (before ++ after) link).result =
      (runFrom config index before link).result.bind fun earlier =>
        (runFrom config (index + before.length) after
          (runFrom config index before link).link).result.map earlier.append := by
  -- the seam moves one payload to the left, over the link that the first exchange leaves
  induction before generalizing index link with
  | nil =>
    simp only [List.nil_append, runFrom, List.length_nil, Nat.add_zero, Except.bind]
    cases (runFrom config index after link).result <;> rfl
  | cons payload before ih =>
    rw [List.cons_append, List.length_cons, ← Nat.add_assoc, Nat.add_right_comm]
    cases hfirst : (exchange config index payload link).result with
    | error halt => rw [runFrom_cons_of_error hfirst, runFrom_cons_of_error hfirst]; rfl
    | ok first =>
      rw [runFrom_cons_of_ok hfirst, runFrom_cons_of_ok hfirst]
      simp only [ih]
      cases (runFrom config (index + 1) before
          (exchange config index payload link).link).result with
      | error halt => rfl
      | ok later =>
        simp only [Except.bind, Except.map]
        cases (runFrom config (index + 1 + before.length) after (runFrom config (index + 1) before
          (exchange config index payload link).link).link).result <;> rfl

/-- A run that succeeds has succeeded up to every point of its script, and from there on. -/
theorem exists_of_runFrom_append_eq_ok {report : Report}
    (hok : (runFrom config index (before ++ after) link).result = .ok report) :
    ∃ earlier later, (runFrom config index before link).result = .ok earlier ∧
      (runFrom config (index + before.length) after
        (runFrom config index before link).link).result = .ok later := by
  rw [result_runFrom_append] at hok
  cases hbefore : (runFrom config index before link).result with
  | error halt => rw [hbefore] at hok; cases hok
  | ok earlier =>
    rw [hbefore] at hok
    cases hafter : (runFrom config (index + before.length) after
        (runFrom config index before link).link).result with
    | error halt => rw [hafter] at hok; cases hok
    | ok later => exact ⟨earlier, later, rfl, rfl⟩

/-- A longer run goes on over the link that a shorter one left, unless that one failed. -/
theorem link_runFrom_append {earlier : Report}
    (hbefore : (runFrom config index before link).result = .ok earlier) :
    (runFrom config index (before ++ after) link).link =
      (runFrom config (index + before.length) after
        (runFrom config index before link).link).link := by
  induction before generalizing index link earlier with
  | nil => rfl
  | cons payload before ih =>
    obtain ⟨first, later, -, hfirst, hlater⟩ := exists_of_runFrom_cons_eq_ok hbefore
    rw [List.cons_append, List.length_cons, runFrom_cons_of_ok hfirst, runFrom_cons_of_ok hfirst,
      ← Nat.add_assoc, Nat.add_right_comm]
    exact ih hlater

/-! ## Where a run gets to -/

/-- A run over `link` that gets through `before` gets through `payload` as well, which adds `entry`
to the report. -/
def Passes (config : Config) (link : Link) (before : Script) (payload : Payload)
    (entry : Exchange) : Prop :=
  ∃ earlier, (run config before link).result = .ok earlier ∧
    (run config (before ++ [payload]) link).result = .ok (earlier.append ⟨[entry]⟩)

/-- A run over `link` that gets through `before` ends at `payload`, whatever is to come after it. -/
def FailsAt (config : Config) (link : Link) (before : Script) (payload : Payload)
    (failure : Failure) : Prop :=
  (∃ earlier, (run config before link).result = .ok earlier) ∧
    ∀ after, (run config (before ++ payload :: after) link).result = .error (.failure failure)

section Reached

variable {earlier : Report}

/-- The result of a run that reaches `payload`, as far as that payload decides it. -/
theorem result_run_append_cons (payload : Payload) (after : Script)
    (hbefore : (run config before link).result = .ok earlier) :
    (run config (before ++ payload :: after) link).result =
      (exchange config before.length payload (run config before link).link).result.bind
        fun entry =>
          (runFrom config (before.length + 1) after (exchange config before.length payload
            (run config before link).link).link).result.map (earlier.append ⟨[entry]⟩).append := by
  unfold run at hbefore ⊢
  rw [result_runFrom_append, hbefore, Nat.zero_add, result_runFrom_cons]
  cases (exchange config before.length payload (runFrom config 0 before link).link).result with
  | error halt => rfl
  | ok entry =>
    simp only [Except.bind]
    cases (runFrom config (before.length + 1) after (exchange config before.length payload
      (runFrom config 0 before link).link).link).result with
    | error halt => rfl
    | ok later => simp [Except.map, Report.append, Report.cons]

/-- A run passes a payload if the exchange of it succeeds. -/
theorem passes_iff (hbefore : (run config before link).result = .ok earlier) {entry : Exchange} :
    Passes config link before payload entry ↔
      (exchange config before.length payload (run config before link).link).result =
        .ok entry := by
  have hrun := result_run_append_cons payload [] hbefore
  constructor
  -- the run of one payload more succeeds only with a report that ends in the new entry
  · rintro ⟨report, hreport, hpassed⟩
    cases hbefore.symm.trans hreport
    rw [hpassed] at hrun
    cases hentry : (exchange config before.length payload (run config before link).link).result with
    | error halt => rw [hentry] at hrun; cases hrun
    | ok found =>
      rw [hentry] at hrun
      simpa [Except.bind, Except.map, runFrom, Report.append, eq_comm] using hrun
  · intro hentry
    refine ⟨earlier, hbefore, ?_⟩
    rw [hrun, hentry]
    simp [Except.bind, Except.map, runFrom]

/-- A run fails at a payload if the exchange of it does. -/
theorem failsAt_iff (hbefore : (run config before link).result = .ok earlier) {failure : Failure} :
    FailsAt config link before payload failure ↔
      (exchange config before.length payload (run config before link).link).result =
        .error (.failure failure) := by
  constructor
  -- the run that stops right after `payload` already shows what becomes of it
  · rintro ⟨-, hfailed⟩
    have hrun := result_run_append_cons payload [] hbefore
    rw [hfailed] at hrun
    cases hentry : (exchange config before.length payload (run config before link).link).result with
    | error halt => rw [hentry] at hrun; simpa [Except.bind, eq_comm] using hrun
    | ok entry => rw [hentry] at hrun; simp [Except.bind, Except.map, runFrom] at hrun
  · intro hfailed
    refine ⟨⟨earlier, hbefore⟩, fun after => ?_⟩
    rw [result_run_append_cons payload after hbefore, hfailed]
    rfl

end Reached

/-! ## Runs without memory -/

/-- Links over which the result of an exchange depends on its index and its payload only. `inv`
holds of the links that a run can come to. -/
structure Steady (config : Config) (inv : Link → Prop)
    (outcome : ℕ → Payload → Except Halt Exchange) : Prop where
  /-- Every exchange has the result that `outcome` foretells. -/
  result : ∀ {link : Link} (index : ℕ) (payload : Payload), inv link →
    (exchange config index payload link).result = outcome index payload
  /-- Every exchange that succeeds keeps `inv`. -/
  link : ∀ {link : Link} {entry : Exchange} (index : ℕ) (payload : Payload), inv link →
    (exchange config index payload link).result = .ok entry →
    inv (exchange config index payload link).link

namespace Steady

variable {inv : Link → Prop} {outcome : ℕ → Payload → Except Halt Exchange}
  (steady : Steady config inv outcome)

include steady

/-- A run in which every exchange is foretold to succeed ends in a report, and `inv` is kept. -/
theorem runFrom_of_forall_ok (index : ℕ) {entry : ℕ → Payload → Exchange} (hlink : inv link)
    (hok : ∀ payload ∈ script, ∀ index, outcome index payload = .ok (entry index payload)) :
    (runFrom config index script link).result =
        .ok ⟨script.mapIdx fun k payload => entry (index + k) payload⟩ ∧
      inv (runFrom config index script link).link := by
  induction script generalizing index link with
  | nil => exact ⟨rfl, hlink⟩
  | cons payload script ih =>
    have hfirst : (exchange config index payload link).result = .ok (entry index payload) := by
      rw [steady.result index payload hlink]
      exact hok payload List.mem_cons_self index
    obtain ⟨hresult, hkept⟩ := ih (index + 1) (steady.link index payload hlink hfirst)
      fun later hlater => hok later (List.mem_cons_of_mem _ hlater)
    rw [runFrom_cons_of_ok hfirst]
    refine ⟨?_, hkept⟩
    -- positions in the rest of the script count from one index later
    simp only [hresult, Except.map, List.mapIdx_cons, Report.cons, Nat.add_zero]
    congr 4
    funext k later
    rw [Nat.add_right_comm, Nat.add_assoc]

/-- A run ends at the first payload whose exchange is foretold to fail. -/
theorem result_run_of_error {entry : ℕ → Payload → Exchange} (hlink : inv link)
    (hok : ∀ payload ∈ before, ∀ index, outcome index payload = .ok (entry index payload))
    (herror : outcome before.length payload = .error halt) :
    (run config (before ++ payload :: after) link).result = .error halt := by
  obtain ⟨hbefore, hkept⟩ := steady.runFrom_of_forall_ok 0 hlink hok
  rw [result_run_append_cons payload after hbefore, run, steady.result _ _ hkept, herror]
  rfl

end Steady

end DatagramEcho.Client

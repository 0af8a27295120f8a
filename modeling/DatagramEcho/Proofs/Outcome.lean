/-!
# Outcomes

What the success of a computation that may fail says about its parts.
-/

namespace DatagramEcho

variable {ε ε' α β : Type}

/-- What a computation in two steps gives, its second step gives from what its first step gave. -/
theorem exists_of_bind_eq_ok {first : Except ε α} {second : α → Except ε β} {b : β}
    (h : first >>= second = .ok b) : ∃ a, first = .ok a ∧ second a = .ok b := by
  cases first with
  | error e => cases h
  | ok a => exact ⟨a, rfl, h⟩

/-- What a changed result was changed from. -/
theorem exists_of_map_eq_ok {outcome : Except ε α} {change : α → β} {b : β}
    (h : outcome.map change = .ok b) : ∃ a, outcome = .ok a ∧ change a = b := by
  cases outcome with
  | error e => cases h
  | ok a => cases h; exact ⟨a, rfl, rfl⟩

/-- A computation that leaves a value gave that value. -/
theorem eq_ok_of_toOption_eq_some {outcome : Except ε α} {a : α}
    (h : outcome.toOption = some a) : outcome = .ok a := by
  cases outcome with
  | error e => cases h
  | ok b => cases h; rfl

theorem toOption_eq_some_iff {outcome : Except ε α} {a : α} :
    outcome.toOption = some a ↔ outcome = .ok a :=
  ⟨eq_ok_of_toOption_eq_some, fun h => by rw [h]; rfl⟩

/-- An outcome whose error was put into other words succeeds as before. -/
theorem eq_ok_of_mapError_eq_ok {outcome : Except ε α} {words : ε → ε'} {a : α}
    (h : outcome.mapError words = .ok a) : outcome = .ok a := by
  cases outcome with
  | error e => cases h
  | ok b => cases h; rfl

@[simp]
theorem toOption_mapError (outcome : Except ε α) (words : ε → ε') :
    (outcome.mapError words).toOption = outcome.toOption := by
  cases outcome <;> rfl

end DatagramEcho

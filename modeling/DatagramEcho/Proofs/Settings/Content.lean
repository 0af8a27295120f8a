import DatagramEcho.Proofs.Settings.Meaning

/-!
# What the meaning of a value depends on

A value remembers where it is written and how its tables came about. Complaints show it, but what a
value spells, if anything, depends on its content alone.

* `Value.content`: a value without places and origins.
* `SeesContent`: a value spells what its content spells.
* `Meaning`: a value spells at most one thing, and its content decides on it.
-/

namespace DatagramEcho

namespace Toml

/-- A value without the places and the origins in it. -/
def Value.content : Value → Value
  | .array items => .array (items.map fun item => ⟨item.value.content, none⟩)
  | .table _ entries => .table .header (entries.map fun entry =>
    (⟨entry.1.value, none⟩, ⟨entry.2.value.content, none⟩))
  | .tables elements => .tables (elements.map fun element =>
    ⟨element.value.map fun entry => (⟨entry.1.value, none⟩, ⟨entry.2.value.content, none⟩), none⟩)
  | value => value
termination_by value => sizeOf value
decreasing_by
  · have hitem := List.sizeOf_lt_of_mem ‹item ∈ items›
    cases item
    simp at hitem ⊢
    omega
  · have hentry := List.sizeOf_lt_of_mem ‹entry ∈ entries›
    rcases entry with ⟨name, ⟨value, span⟩⟩
    simp at hentry ⊢
    omega
  · have helement := List.sizeOf_lt_of_mem ‹element ∈ elements›
    have hentry := List.sizeOf_lt_of_mem ‹entry ∈ element.value›
    rcases entry with ⟨name, ⟨value, span⟩⟩
    cases element
    simp at helement hentry ⊢
    omega

/-- A located value without its place and those in it. -/
def Located.content (value : Located Value) : Located Value :=
  ⟨value.value.content, none⟩

end Toml

open Toml

namespace Settings

/-- A value spells what its content spells. -/
def SeesContent {α : Type} (Spells : Value → α → Prop) : Prop :=
  ∀ (value : Value) (a : α), Spells value.content a ↔ Spells value a

theorem seesContent_text : SeesContent SpellsText := by
  intro value text
  rw [spellsText_iff, spellsText_iff]
  cases value <;> simp [Value.content]

theorem seesContent_count : SeesContent SpellsCount := by
  intro value count
  rw [spellsCount_iff, spellsCount_iff]
  cases value <;> simp [Value.content]

theorem seesContent_texts : SeesContent SpellsTexts := by
  intro value texts
  have htext : ∀ (item : Located Value) (text : String),
      SpellsText item.value.content text ↔ SpellsText item.value text :=
    fun item text => seesContent_text item.value text
  cases value
  case array items =>
    rw [Value.content]
    constructor
    · rintro ⟨hitems⟩
      exact .array ((List.forall₂_map_left_iff.mp hitems).imp fun item text => (htext item text).mp)
    · rintro ⟨hitems⟩
      exact .array (List.forall₂_map_left_iff.mpr
        (hitems.imp fun item text => (htext item text).mpr))
  case tables elements =>
    -- only the array of no tables lists texts
    rw [Value.content]
    cases elements with
    | nil => rfl
    | cons element elements => exact ⟨nofun, nofun⟩
  case table =>
    rw [Value.content]
    exact ⟨nofun, nofun⟩
  all_goals simp only [Value.content]

theorem blank_content_iff (value : Value) : Blank value.content ↔ Blank value := by
  rw [blank_iff, blank_iff]
  cases value <;> simp [Value.content]

theorem seesContent_choice {α : Type} [Choice α] : SeesContent (SpellsChoice (α := α)) := by
  intro value choice
  cases value
  case table origin entries =>
    -- a table names a choice only if it has one entry
    rw [Value.content, spellsChoice_table_iff, spellsChoice_table_iff]
    match entries with
    | [] => simp
    | [(name, content)] => simp [blank_content_iff]
    | _ :: _ :: _ => simp
  case array =>
    rw [Value.content]
    exact ⟨nofun, nofun⟩
  case tables =>
    rw [Value.content]
    exact ⟨nofun, nofun⟩
  all_goals simp only [Value.content]

/-- A value spells at most one thing, and its content decides on it. -/
structure Meaning {α : Type} (Spells : Value → α → Prop) : Prop where
  /-- It spells at most one thing. -/
  unique : ∀ {value : Value} {a b : α}, Spells value a → Spells value b → a = b
  /-- It spells what its content spells. -/
  content : SeesContent Spells

theorem meaning_text : Meaning SpellsText :=
  ⟨reads_text.unique, seesContent_text⟩

theorem meaning_count : Meaning SpellsCount :=
  ⟨(reads_count sizeType).unique, seesContent_count⟩

theorem meaning_texts : Meaning SpellsTexts :=
  ⟨reads_texts.unique, seesContent_texts⟩

theorem meaning_choice {α : Type} [Choice α] [LawfulChoice α] : Meaning (SpellsChoice (α := α)) :=
  ⟨reads_choice.unique, seesContent_choice⟩

end Settings

end DatagramEcho

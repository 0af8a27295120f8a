import DatagramEcho.Proofs.Outcome
import DatagramEcho.Settings.Decode
import Mathlib.Data.List.Forall2
import Mathlib.Data.Nat.Notation
import Mathlib.Tactic.MkIffOfInductiveProp

/-!
# What a value means to a field

A field holds a text, a number that is not negative, a choice among names, or a list of texts. This
module says which values of a document spell these, without a word on how they are read. A reader
reads a value as the one thing that it spells, and refuses it if it spells nothing.

* `SpellsText`, `SpellsCount`, `SpellsChoice` and `SpellsTexts`: what a value spells.
* `Read.Reads`: a reader accepts the values that spell something, and reads what they spell.
* `reads_text`, `reads_count`, `reads_choice` and `reads_texts`: the readers of fields do so.
-/

namespace DatagramEcho

open Toml

/-- A type of choices whose names tell the choices apart. -/
class LawfulChoice (α : Type) [Choice α] : Prop where
  /-- Every choice is found by its name. -/
  ofName?_name : ∀ choice : α, Choice.ofName? (Choice.name choice) = some choice

instance : LawfulChoice EmptyPolicy where
  ofName?_name choice := by cases choice <;> decide

instance : LawfulChoice Transform where
  ofName?_name choice := by cases choice <;> decide

instance : LawfulChoice EventLoop where
  ofName?_name choice := by cases choice <;> decide

theorem Choice.ofName?_eq_some_iff {α : Type} [Choice α] [LawfulChoice α] {text : String}
    {choice : α} : Choice.ofName? text = some choice ↔ Choice.name choice = text := by
  constructor
  · intro hfound
    simpa using List.find?_some hfound
  · rintro rfl
    exact LawfulChoice.ofName?_name choice

namespace Settings

variable {α : Type}

/-- The value is the text. -/
@[mk_iff]
inductive SpellsText : Value → String → Prop where
  /-- A string is the text in it. -/
  | string (text : String) : SpellsText (.string text) text

/-- The value is the number, which is not negative. -/
@[mk_iff]
inductive SpellsCount : Value → ℕ → Prop where
  /-- An integer that is not negative is the number. -/
  | integer (count : ℕ) : SpellsCount (.integer count) count

/-- The value has nothing in it. -/
@[mk_iff]
inductive Blank : Value → Prop where
  /-- A table without entries. -/
  | table (origin : Origin) : Blank (.table origin [])
  /-- An array without items. -/
  | array : Blank (.array [])
  /-- An array of no tables. -/
  | tables : Blank (.tables [])

/-- The value names the choice. -/
inductive SpellsChoice [Choice α] : Value → α → Prop where
  /-- The name stands alone. -/
  | string (choice : α) : SpellsChoice (.string (Choice.name choice)) choice
  /-- The name is the only key of a table, and nothing is in its value. -/
  | table (origin : Origin) (choice : α) (span : Option Span) {content : Located Value}
      (hblank : Blank content.value) :
      SpellsChoice (.table origin [(⟨Choice.name choice, span⟩, content)]) choice

/-- A table names a choice by its only key. -/
theorem spellsChoice_table_iff [Choice α] {origin : Origin} {entries : Entries} {choice : α} :
    SpellsChoice (.table origin entries) choice ↔ ∃ name content, entries = [(name, content)] ∧
      name.value = Choice.name choice ∧ Blank content.value := by
  constructor
  · rintro ⟨⟩
    exact ⟨_, _, rfl, rfl, ‹_›⟩
  · rintro ⟨⟨name, span⟩, content, rfl, rfl, hblank⟩
    exact .table origin choice span hblank

/-- The value lists the texts. -/
inductive SpellsTexts : Value → List String → Prop where
  /-- The items of an array are the texts, one by one. -/
  | array {items : List (Located Value)} {texts : List String}
      (hitems : List.Forall₂ (fun item text => SpellsText item.value text) items texts) :
      SpellsTexts (.array items) texts
  /-- Tables are no texts, so that an array of tables lists texts only if it is empty. -/
  | tables : SpellsTexts (.tables []) []

/-- A value is accepted if it spells something, and then it is read as what it spells. -/
def Read.Reads (read : Read α) (Spells : Value → α → Prop) : Prop :=
  ∀ (value : Located Value) (a : α), read value = .ok a ↔ Spells value.value a

theorem reads_make {read : Value → Except Misfit α} {Spells : Value → α → Prop}
    (hread : ∀ value a, read value = .ok a ↔ Spells value a) : (Read.make read).Reads Spells := by
  intro value a
  rw [← hread value.value a, Read.make]
  exact ⟨eq_ok_of_mapError_eq_ok, fun h => by rw [h]; rfl⟩

/-- A value spells at most one thing. -/
theorem Read.Reads.unique {read : Read α} {Spells : Value → α → Prop} (hreads : read.Reads Spells)
    {value : Value} {a b : α} (ha : Spells value a) (hb : Spells value b) : a = b := by
  have hreadA := (hreads ⟨value, none⟩ a).mpr ha
  have hreadB := (hreads ⟨value, none⟩ b).mpr hb
  rw [hreadA] at hreadB
  exact Except.ok.inj hreadB

theorem reads_text : readText.Reads SpellsText := by
  refine reads_make fun value text => ?_
  constructor
  · intro hread
    cases value <;> cases hread
    exact .string text
  · rintro ⟨⟩
    rfl

theorem reads_count (type : String) : (readCount type).Reads SpellsCount := by
  refine reads_make fun value count => ?_
  constructor
  · intro hread
    cases value
    case integer number =>
      dsimp only at hread
      split_ifs at hread with hnegative
      · cases hread
      · cases hread
        -- an integer that is not negative is a natural number
        obtain ⟨count, rfl⟩ := Int.eq_ofNat_of_zero_le (Int.not_lt.mp hnegative)
        exact .integer count
    all_goals cases hread
  · rintro ⟨⟩
    exact if_neg (Int.not_lt.mpr (Int.natCast_nonneg count))

/-- A list is read item by item. -/
theorem mapM_eq_ok_iff {ε β γ : Type} {read : β → Except ε γ} {items : List β} {results : List γ} :
    items.mapM read = .ok results ↔
      List.Forall₂ (fun item result => read item = .ok result) items results := by
  induction items generalizing results with
  | nil =>
    rw [List.mapM_nil, List.forall₂_nil_left_iff]
    exact ⟨fun h => (Except.ok.inj h).symm, fun h => h ▸ rfl⟩
  | cons item items ih =>
    rw [List.mapM_cons, List.forall₂_cons_left_iff]
    constructor
    · intro hread
      obtain ⟨result, hitem, hrest⟩ := exists_of_bind_eq_ok hread
      obtain ⟨results, hitems, hok⟩ := exists_of_bind_eq_ok hrest
      cases hok
      exact ⟨result, results, hitem, ih.mp hitems, rfl⟩
    · rintro ⟨result, results, hitem, hitems, rfl⟩
      rw [hitem, ih.mpr hitems]
      rfl

theorem reads_texts : readTexts.Reads SpellsTexts := by
  refine reads_make fun value texts => ?_
  constructor
  · intro hread
    cases value
    case array items =>
      exact .array ((mapM_eq_ok_iff.mp hread).imp fun item text => (reads_text item text).mp)
    case tables elements =>
      have hitems := mapM_eq_ok_iff.mp hread
      cases hvalues : elementValues elements with
      | nil =>
        rw [hvalues] at hitems
        cases hitems
        obtain rfl : elements = [] := by simpa [elementValues] using hvalues
        exact .tables
      | cons value values =>
        -- the first element would have to be a text, but it is a table
        have hmem : value ∈ elementValues elements := hvalues ▸ List.mem_cons_self
        obtain ⟨element, -, rfl⟩ := List.mem_map.mp hmem
        rw [hvalues] at hitems
        cases hitems with
        | cons hfirst _ => cases (reads_text _ _).mp hfirst
    all_goals cases hread
  · rintro (⟨hitems⟩ | -)
    · exact mapM_eq_ok_iff.mpr (hitems.imp fun item text => (reads_text item text).mpr)
    · rfl

theorem reads_blank : checkChoiceContent.Reads fun value _ => Blank value := by
  refine reads_make fun value _ => ?_
  constructor
  · intro hread
    split at hread
    · exact .table _
    · exact .array
    · exact .tables
    all_goals cases hread
  · rintro (_ | _ | _) <;> rfl

theorem readName_eq_ok_iff [Choice α] [LawfulChoice α] {name : String} {choice : α} :
    readName name = .ok choice ↔ Choice.name choice = name := by
  rw [← Choice.ofName?_eq_some_iff, readName]
  cases (Choice.ofName? name : Option α) with
  | some found => exact ⟨fun h => congrArg some (Except.ok.inj h), fun h => by cases h; rfl⟩
  | none => exact ⟨nofun, nofun⟩

theorem reads_choice [Choice α] [LawfulChoice α] : (readChoice : Read α).Reads SpellsChoice := by
  refine reads_make fun value choice => ?_
  constructor
  · intro hread
    split at hread
    case h_1 name =>
      obtain rfl := readName_eq_ok_iff.mp hread
      exact .string choice
    case h_3 origin name content =>
      obtain ⟨found, hname, hrest⟩ := exists_of_bind_eq_ok hread
      obtain ⟨empty, hcontent, hok⟩ := exists_of_bind_eq_ok hrest
      cases hok
      have hblank := (reads_blank content empty).mp hcontent
      obtain ⟨name, span⟩ := name
      obtain rfl : Choice.name choice = name :=
        readName_eq_ok_iff.mp (eq_ok_of_mapError_eq_ok hname)
      exact .table origin choice span hblank
    all_goals cases hread
  · rintro (_ | ⟨origin, choice, span, hblank⟩)
    · exact readName_eq_ok_iff.mpr rfl
    · have hcontent := (reads_blank _ ()).mpr hblank
      simp only [readName_eq_ok_iff.mpr rfl, hcontent]
      rfl

end Settings

end DatagramEcho

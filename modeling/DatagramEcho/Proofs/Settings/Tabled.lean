import DatagramEcho.Proofs.Settings.Known

/-!
# Sections that are arrays

A section may be written as an array of values without keys. It is read like the table that gives
the values to the fields in the order of their declaration. A complaint about the array lacks the
key that one about the table has, but it is the same complaint.

* `Agree`: two readings give the same, or meet the same problem.
* `tabled`: a document with tables in the place of arrays.
* `agree_tabled`: both are read alike.
-/

namespace DatagramEcho.Settings

open Toml

variable {σ α β : Type}

/-! ## Readings that agree -/

/-- Two readings give the same, or meet the same problem, though perhaps in different places. -/
def Agree (first second : Except Misfit α) : Prop :=
  first.mapError Misfit.problem = second.mapError Misfit.problem

namespace Agree

variable {first second third : Except Misfit α}

theorem refl (outcome : Except Misfit α) : Agree outcome outcome :=
  Eq.refl (outcome.mapError Misfit.problem)

theorem symm (hagree : Agree first second) : Agree second first :=
  Eq.symm hagree

theorem trans (hfirst : Agree first second) (hsecond : Agree second third) : Agree first third :=
  Eq.trans hfirst hsecond

/-! Where a problem was met makes no difference. -/

theorem within (span : Option Span) (outcome : Except Misfit α) :
    Agree (outcome.mapError (·.within span)) outcome := by
  cases outcome <;> rfl

theorem under (key : Located String) (outcome : Except Misfit α) :
    Agree (outcome.mapError (·.under key)) outcome := by
  cases outcome <;> rfl

theorem bind {next next' : α → Except Misfit β} (hagree : Agree first second)
    (hnext : ∀ a, Agree (next a) (next' a)) : Agree (first >>= next) (second >>= next') := by
  cases first with
  | error found =>
    cases second with
    | error found' => exact congrArg Except.error (Except.error.inj hagree)
    | ok a => cases hagree
  | ok a =>
    cases second with
    | error found' => cases hagree
    | ok a' =>
      obtain rfl : a = a' := Except.ok.inj hagree
      exact hnext a

theorem map (hagree : Agree first second) (change : α → β) :
    Agree (first.map change) (second.map change) :=
  hagree.bind fun a => refl (.ok (change a))

theorem toOption_eq (hagree : Agree first second) : first.toOption = second.toOption := by
  rw [← toOption_mapError first Misfit.problem, hagree, toOption_mapError]

end Agree

/-! ## One section -/

/-- The entries that give values to the first keys. Values beyond the keys are left out. -/
def keyed (keys : List String) (values : List (Located Value)) : Entries :=
  (keys.zip values).map fun given => (⟨given.1, none⟩, given.2)

/-- The table that a section with these keys stands for. -/
def asTable (keys : List String) : Value → Value
  | .array values => .table .header (keyed keys values)
  | .tables elements => .table .header (keyed keys (elementValues elements))
  | value => value

variable {fields : List (Field σ)}

/-- An entry of a field's key does what setting the field does. -/
theorem Regular.agree_setEntry (hregular : Regular fields) {field : Field σ}
    (hfield : field ∈ fields) (state : σ) (span : Option Span) (value : Located Value) :
    Agree (setEntry fields state (⟨field.key, span⟩, value)) (field.set state value) := by
  unfold setEntry
  rw [hregular.find?_eq_some_iff.mpr ⟨hfield, rfl⟩]
  exact Agree.under _ (field.set state value)

/-- Setting fields by their keys is setting them by their positions. -/
theorem Regular.agree_overlay_keyed (hregular : Regular fields) (state : σ)
    (values : List (Located Value)) :
    Agree (overlay fields state (keyed (fields.map (·.key)) values))
      (positional fields state values) := by
  -- the fields that are still to be set are some of all fields
  suffices hsome : ∀ later : List (Field σ), (∀ field ∈ later, field ∈ fields) →
      ∀ (state : σ) (values : List (Located Value)),
        Agree (overlay fields state (keyed (later.map (·.key)) values))
          (positional later state values) from
    hsome fields (fun _ hfield => hfield) state values
  intro later
  induction later with
  | nil => exact fun _ _ _ => Agree.refl _
  | cons field later ih =>
    intro hmem state values
    cases values with
    | nil => exact Agree.refl _
    | cons value values =>
      rw [positional_cons]
      refine (hregular.agree_setEntry (hmem field List.mem_cons_self) state none value).bind ?_
      intro state'
      exact ih (fun field hfield => hmem field (List.mem_cons_of_mem _ hfield)) state' values

theorem Regular.agree_asTable (hregular : Regular fields) (wanted : String) (default : σ)
    (given : Located Value) :
    Agree (readSection wanted fields default ⟨asTable (fields.map (·.key)) given.value, given.span⟩)
      (readSection wanted fields default given) := by
  unfold readSection Read.make
  refine (Agree.within given.span _).trans (Agree.trans ?_ (Agree.within given.span _).symm)
  cases given.value with
  | array values => exact hregular.agree_overlay_keyed default values
  | tables elements => exact hregular.agree_overlay_keyed default (elementValues elements)
  | _ => exact Agree.refl _

/-! ## Documents -/

/-- The keys of a section, in the order of their declaration. -/
def keysOf (part : String) : List String :=
  (knownKeys.filter (·.part = part)).map (·.key)

/-- The value of a key of a document, as a table if it is a section. -/
def asSection (part : String) (value : Value) : Value :=
  if part ∈ sectionNames then asTable (keysOf part) value else value

/-- A document whose sections are tables in the place of arrays. -/
def tabled (entries : Entries) : Entries :=
  entries.map fun given => (given.1, ⟨asSection given.1.value given.2.value, given.2.span⟩)

/-- A section that is an array does what the table does. -/
theorem agree_setEntry_asSection (settings : Settings) (given : Located String × Located Value) :
    Agree
      (setEntry sections settings
        (given.1, ⟨asSection given.1.value given.2.value, given.2.span⟩))
      (setEntry sections settings given) := by
  unfold setEntry asSection
  dsimp only
  cases hfind : sections.find? (·.key == given.1.value) with
  | none =>
    exact Agree.refl _
  | some field =>
    obtain ⟨hfield, hpart⟩ := regular_sections.find?_eq_some_iff.mp hfind
    refine (Agree.under given.1 _).trans (Agree.trans ?_ (Agree.under given.1 _).symm)
    rw [← hpart]
    simp only [sections, List.mem_cons, List.not_mem_nil, or_false] at hfield
    rcases hfield with rfl | rfl | rfl
    · exact (regular_server.agree_asTable _ _ given.2).map _
    · exact (regular_client.agree_asTable _ _ given.2).map _
    · exact (regular_logging.agree_asTable _ _ given.2).map _

/-- A document is read like the one with tables in the place of arrays. -/
theorem agree_tabled (entries : Entries) :
    Agree (ofEntries (tabled entries)) (ofEntries entries) := by
  suffices hoverlay : ∀ settings : Settings,
      Agree (overlay sections settings (tabled entries)) (overlay sections settings entries) from
    hoverlay {}
  induction entries with
  | nil => exact fun settings => Agree.refl _
  | cons given entries ih =>
    intro settings
    rw [overlay_cons]
    exact (agree_setEntry_asSection settings given).bind ih

/-! ## Distinct keys -/

theorem keyed_keys (keys : List String) (values : List (Located Value)) :
    (keyed keys values).map (·.1.value) = keys.take values.length := by
  induction keys generalizing values with
  | nil => simp [keyed]
  | cons key keys ih =>
    cases values with
    | nil => rfl
    | cons value values => exact congrArg (List.cons key) (ih values)

section Keyed

variable {keys : List String} (hkeys : keys.Nodup)

include hkeys

theorem distinct_keyed {values : List (Located Value)}
    (hvalues : ∀ value ∈ values, value.value.Distinct) : (keyed keys values).Distinct := by
  refine ⟨?_, ?_⟩
  · rw [keyed_keys]
    exact hkeys.sublist (List.take_sublist _ _)
  · intro entry hentry
    obtain ⟨⟨key, value⟩, hgiven, rfl⟩ := List.mem_map.mp hentry
    exact hvalues value (List.of_mem_zip hgiven).2

theorem distinct_asTable {value : Value} (hdistinct : value.Distinct) :
    (asTable keys value).Distinct := by
  cases hdistinct with
  | scalar hscalar =>
    cases value <;> cases hscalar <;> exact .scalar rfl
  | array hitems => exact Value.distinct_table_iff.mpr (distinct_keyed hkeys hitems)
  | table hkeys hvalues => exact .table hkeys hvalues
  | tables helements =>
    refine Value.distinct_table_iff.mpr (distinct_keyed hkeys ?_)
    intro value hvalue
    obtain ⟨element, helement, rfl⟩ := List.mem_map.mp hvalue
    exact helements element (List.mem_reverse.mp helement)

end Keyed

theorem nodup_keysOf : ∀ part ∈ sectionNames, (keysOf part).Nodup := by
  decide

theorem distinct_asSection (part : String) {value : Value} (hdistinct : value.Distinct) :
    (asSection part value).Distinct := by
  unfold asSection
  split_ifs with hpart
  · exact distinct_asTable (nodup_keysOf part hpart) hdistinct
  · exact hdistinct

theorem distinct_tabled {entries : Entries} (hdistinct : entries.Distinct) :
    (tabled entries).Distinct := by
  refine ⟨?_, ?_⟩
  · rw [tabled, List.map_map]
    exact hdistinct.keys
  · intro entry hentry
    obtain ⟨given, hgiven, rfl⟩ := List.mem_map.mp hentry
    exact distinct_asSection given.1.value (hdistinct.values given hgiven)

end DatagramEcho.Settings

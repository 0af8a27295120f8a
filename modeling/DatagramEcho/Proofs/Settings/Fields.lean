import DatagramEcho.Proofs.Configuration
import DatagramEcho.Settings.Decode
import Mathlib.Data.List.Nodup
import Mathlib.Tactic.SplitIfs

/-!
# Reading a section field by field

A section is read value by value, and every value sets one field. So the part of a section that a
field governs ends up as what the document gives that field, and stays at its default where the
document gives it nothing. A table gives a field its value by the key, an array by the position.

* `Governs`: a field sets a part of the section, and no other field does.
* `Governs.make`: so does each field that is made at a position.
* `sectionValue?`: the value that a section gives a field.
* `Governs.taken_overlay` and `Governs.taken_positional`: what becomes of the part, key by key and
  position by position.
* `Governs.taken_readSection`: what becomes of it, whatever the section is.
-/

namespace DatagramEcho

/-- The value of the last entry of a key. -/
def Toml.Entries.last? (entries : Toml.Entries) (key : String) : Option (Toml.Located Toml.Value) :=
  (entries.findRev? fun entry => entry.1.value == key).map (·.2)

/-- The last entry of a key is among the later ones, or it is the first. -/
theorem Toml.Entries.last?_cons (entry : Toml.Located String × Toml.Located Toml.Value)
    (entries : Toml.Entries) (key : String) :
    Toml.Entries.last? (entry :: entries) key =
      (Toml.Entries.last? entries key).or (if entry.1.value = key then some entry.2 else none) := by
  simp only [last?, List.findRev?, beq_iff_eq]
  cases List.findRev? (fun entry => entry.1.value == key) entries with
  | some later => rfl
  | none => split_ifs <;> rfl

namespace Settings

variable {σ α : Type}

@[simp]
theorem Field.key_make (key : String) (read : Read α) (store : σ → α → σ) :
    (Field.make key read store).key = key := rfl

/-- Setting a field leaves a part of the section as it is. -/
def Field.Keeps (field : Field σ) (part : σ → α) : Prop :=
  ∀ {state state' : σ} {value : Toml.Located Toml.Value},
    field.set state value = .ok state' → part state' = part state

/-- A field that stores its value sets what the storing sets. -/
theorem Field.exists_of_make_set {key : String} {read : Read α} {store : σ → α → σ}
    {state state' : σ} {value : Toml.Located Toml.Value}
    (hset : (Field.make key read store).set state value = .ok state') :
    ∃ a, read value = .ok a ∧ state' = store state a := by
  simp only [Field.make] at hset
  cases hread : read value with
  | error found => rw [hread] at hset; cases hset
  | ok a => rw [hread] at hset; cases hset; exact ⟨a, rfl, rfl⟩

/-- A field keeps what its storing keeps. -/
theorem Field.keeps_make {β : Type} {key : String} {read : Read β} {store : σ → β → σ}
    {part : σ → α} (hstore : ∀ state b, part (store state b) = part state) :
    (Field.make key read store).Keeps part := by
  intro state state' value hset
  obtain ⟨b, -, rfl⟩ := exists_of_make_set hset
  exact hstore state b

/-- What an entry of a table does to a section. -/
def setEntry (fields : List (Field σ)) (state : σ)
    (entry : Toml.Located String × Toml.Located Toml.Value) : Except Misfit σ :=
  match fields.find? (·.key == entry.1.value) with
  | some field => (field.set state entry.2).mapError (·.under entry.1)
  | none => .ok state

theorem overlay_cons (fields : List (Field σ)) (state : σ)
    (entry : Toml.Located String × Toml.Located Toml.Value) (entries : Toml.Entries) :
    overlay fields state (entry :: entries) =
      setEntry fields state entry >>= fun state => overlay fields state entries := rfl

theorem positional_cons (field : Field σ) (fields : List (Field σ)) (state : σ)
    (value : Toml.Located Toml.Value) (values : List (Toml.Located Toml.Value)) :
    positional (field :: fields) state (value :: values) =
      field.set state value >>= fun state => positional fields state values := rfl

/-- An array keeps what all fields keep. -/
theorem keeps_positional {fields : List (Field σ)} {part : σ → α}
    (hkeeps : ∀ field ∈ fields, field.Keeps part) {state state' : σ}
    {values : List (Toml.Located Toml.Value)}
    (hpositional : positional fields state values = .ok state') : part state' = part state := by
  induction fields generalizing state values with
  | nil => cases hpositional; rfl
  | cons field fields ih =>
    cases values with
    | nil => cases hpositional; rfl
    | cons value values =>
      rw [positional_cons] at hpositional
      obtain ⟨middle, hset, hlater⟩ := exists_of_bind_eq_ok hpositional
      have hlaterKeeps : ∀ later ∈ fields, later.Keeps part := fun later hmem =>
        hkeeps later (List.mem_cons_of_mem _ hmem)
      rw [ih hlaterKeeps hlater]
      exact hkeeps field List.mem_cons_self hset

/-- The value that a section gives the field of a key at a position. -/
def sectionValue? (position : ℕ) (key : String) :
    Toml.Value → Option (Toml.Located Toml.Value)
  | .table _ entries => Toml.Entries.last? entries key
  | .array values => values[position]?
  | .tables elements => (elementValues elements)[position]?
  | _ => none

/-- What becomes of a part of a section that was `before`: what is read from the value that was
found for it, or nothing new if none was found. -/
def Taken (read : Read α) (before : α) : Option (Toml.Located Toml.Value) → α → Prop
  | none, after => after = before
  | some value, after => read value = .ok after

/-- The part after the reading, as a function of what was found. -/
theorem Taken.eq_getD {read : Read α} {before after : α} {found : Option (Toml.Located Toml.Value)}
    (htaken : Taken read before found after) :
    after = (found.bind fun value => (read value).toOption).getD before := by
  cases found with
  | none => exact htaken
  | some value =>
    have hread : read value = .ok after := htaken
    simp [hread, Except.toOption]

/-- `part` is set by the field at `position`, which has the key `key` and reads its value by `read`,
and by no other field. -/
structure Governs (fields : List (Field σ)) (position : ℕ) (key : String) (read : Read α)
    (part : σ → α) : Prop where
  /-- No two fields have the same key. -/
  distinct : (fields.map (·.key)).Nodup
  /-- The field stores the part. -/
  own : ∃ store : σ → α → σ, fields[position]? = some (.make key read store) ∧
    ∀ state a, part (store state a) = a
  /-- All other fields keep it. -/
  others : ∀ field ∈ fields, field.key ≠ key → field.Keeps part

namespace Governs

variable {fields : List (Field σ)} {position : ℕ} {key : String} {read : Read α} {part : σ → α}
  {state state' : σ}

/-- A field that is made at a position governs the part that it stores, if the fields at the other
positions keep it. -/
theorem make {store : σ → α → σ} (hkeys : (fields.map (·.key)).Nodup)
    (hfield : fields[position]? = some (.make key read store))
    (hstore : ∀ state a, part (store state a) = a)
    (hothers : ∀ field ∈ fields.eraseIdx position, field.Keeps part) :
    Governs fields position key read part where
  distinct := hkeys
  own := ⟨store, hfield, hstore⟩
  others field hmem hkey := by
    obtain ⟨other, hother⟩ := List.mem_iff_getElem?.mp hmem
    -- another key stands at another position
    have hne : other ≠ position := by
      rintro rfl
      rw [hfield] at hother
      exact hkey (Option.some.inj hother ▸ rfl)
    have hmem := List.mem_eraseIdx_iff_getElem?.mpr ⟨other, hne, hother⟩
    intro state state' value hset
    exact hothers field hmem hset

section Head

variable {field : Field σ}

/-- What the first field does not set is set by one of the other fields. -/
theorem tail (hgoverns : Governs (field :: fields) (position + 1) key read part) :
    Governs fields position key read part where
  distinct := (List.nodup_cons.mp hgoverns.distinct).2
  own := by simpa using hgoverns.own
  others later hlater := hgoverns.others later (List.mem_cons_of_mem _ hlater)

/-- What the first field does not set, it keeps. -/
theorem head_key_ne (hgoverns : Governs (field :: fields) (position + 1) key read part) :
    field.key ≠ key := by
  obtain ⟨store, hfield, -⟩ := hgoverns.tail.own
  rintro rfl
  have hmem := List.mem_map_of_mem (f := Field.key) (List.mem_of_getElem? hfield)
  exact (List.nodup_cons.mp hgoverns.distinct).1 hmem

/-- What the first field sets, all other fields keep. -/
theorem tail_keeps (hgoverns : Governs (field :: fields) 0 key read part) :
    ∀ later ∈ fields, later.Keeps part := by
  obtain ⟨store, hfield, -⟩ := hgoverns.own
  have hkey : field.key = key := by
    rw [Option.some.inj hfield]
    rfl
  intro later hlater
  -- a later field with the same key would be a second one
  refine hgoverns.others later (List.mem_cons_of_mem _ hlater) fun hlaterKey => ?_
  have hmem := List.mem_map_of_mem (f := Field.key) hlater
  rw [hlaterKey, ← hkey] at hmem
  exact (List.nodup_cons.mp hgoverns.distinct).1 hmem

end Head

/-- The field is the one that is found by the key. -/
theorem find?_eq (hgoverns : Governs fields position key read part) :
    ∃ store : σ → α → σ, fields.find? (·.key == key) = some (.make key read store) ∧
      ∀ state a, part (store state a) = a := by
  obtain ⟨store, hfield, hstore⟩ := hgoverns.own
  refine ⟨store, ?_, hstore⟩
  induction fields generalizing position with
  | nil => simp at hfield
  | cons first fields ih =>
    cases position with
    | zero =>
      have hfirst : first = .make key read store := by simpa using hfield
      simp [hfirst, Field.make]
    -- the fields before it have other keys, and are passed over
    | succ position =>
      rw [List.find?_cons_of_neg (by simpa using hgoverns.head_key_ne)]
      exact ih hgoverns.tail (by simpa using hfield)

/-- An entry of a table sets the part if it has the key of the field, and keeps it otherwise. -/
theorem taken_setEntry (hgoverns : Governs fields position key read part)
    {entry : Toml.Located String × Toml.Located Toml.Value}
    (hset : setEntry fields state entry = .ok state') :
    Taken read (part state) (if entry.1.value = key then some entry.2 else none) (part state') := by
  unfold setEntry at hset
  split_ifs with hname
  · obtain ⟨store, hfind, hstore⟩ := hgoverns.find?_eq
    rw [hname, hfind] at hset
    obtain ⟨a, hread, rfl⟩ := Field.exists_of_make_set (eq_ok_of_mapError_eq_ok hset)
    rw [hstore]
    exact hread
  -- another key finds no field or another one, and neither touches the part
  · have hkept : part state' = part state := by
      cases hfind : fields.find? (·.key == entry.1.value) with
      | none => rw [hfind] at hset; cases hset; rfl
      | some field =>
        rw [hfind] at hset
        have hfound : field.key = entry.1.value := by simpa using List.find?_some hfind
        have hkey : field.key ≠ key := by rwa [hfound]
        exact hgoverns.others field (List.mem_of_find?_eq_some hfind) hkey
          (eq_ok_of_mapError_eq_ok hset)
    exact hkept

/-- In a table the part is set by the last entry of the key, if there is one. -/
theorem taken_overlay (hgoverns : Governs fields position key read part) {entries : Toml.Entries}
    (hoverlay : overlay fields state entries = .ok state') :
    Taken read (part state) (Toml.Entries.last? entries key) (part state') := by
  induction entries generalizing state with
  | nil => cases hoverlay; exact rfl
  | cons entry entries ih =>
    rw [overlay_cons] at hoverlay
    obtain ⟨middle, hset, hlater⟩ := exists_of_bind_eq_ok hoverlay
    have htaken := ih hlater
    rw [Toml.Entries.last?_cons]
    cases hfound : Toml.Entries.last? entries key with
    | some value =>
      -- a later entry of the key overrides this one, which then only had to be readable
      rw [hfound] at htaken
      exact htaken
    | none =>
      rw [hfound] at htaken
      have hkept : part state' = part middle := htaken
      rw [hkept]
      exact hgoverns.taken_setEntry hset

/-- In an array the part is set by the element at the position, if there is one. -/
theorem taken_positional (hgoverns : Governs fields position key read part)
    {values : List (Toml.Located Toml.Value)}
    (hpositional : positional fields state values = .ok state') :
    Taken read (part state) values[position]? (part state') := by
  induction fields generalizing position state values with
  | nil =>
    obtain ⟨store, hfield, -⟩ := hgoverns.own
    simp at hfield
  | cons field fields ih =>
    cases values with
    | nil => cases hpositional; exact rfl
    | cons value values =>
      rw [positional_cons] at hpositional
      obtain ⟨middle, hset, hlater⟩ := exists_of_bind_eq_ok hpositional
      cases position with
      -- what the first field sets, the other ones keep; what it does not set, they set
      | zero =>
        obtain ⟨store, hfield, hstore⟩ := hgoverns.own
        rw [Option.some.inj hfield] at hset
        obtain ⟨a, hread, rfl⟩ := Field.exists_of_make_set hset
        rw [keeps_positional hgoverns.tail_keeps hlater, hstore]
        exact hread
      | succ position =>
        have hkept := hgoverns.others field List.mem_cons_self hgoverns.head_key_ne hset
        rw [← hkept]
        exact ih hgoverns.tail hlater

/-- Whatever the section is, the part is set to what the section gives the field, if anything. -/
theorem taken_readSection (hgoverns : Governs fields position key read part) {wanted : String}
    {given : Toml.Located Toml.Value} (hread : readSection wanted fields state given = .ok state') :
    Taken read (part state) (sectionValue? position key given.value) (part state') := by
  have hread := eq_ok_of_mapError_eq_ok hread
  cases hvalue : given.value <;> rw [hvalue] at hread
  case table origin entries => exact hgoverns.taken_overlay hread
  case array values => exact hgoverns.taken_positional hread
  case tables elements => exact hgoverns.taken_positional hread
  case moment => cases hread; exact rfl
  -- no other value is a section
  all_goals cases hread

end Governs

end Settings

end DatagramEcho

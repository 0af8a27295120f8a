import DatagramEcho.Proofs.Settings.Content
import DatagramEcho.Proofs.Settings.Stated
import DatagramEcho.Proofs.Toml.Distinct

/-!
# Known keys

A settings file may hold anything in any order. All that counts are the values that it gives to the
keys that some section knows. Each of them is looked at on its own: it spells something of the kind
that its key takes or it does not, whatever else the file holds.

* `knownKeys`: the keys of all sections, each with the values that it takes and what it sets.
* `Gives`: a document gives a value to a key of a section.
* `Overlaid`: settings are the defaults in which the known keys of a document are replaced.
* `exists_ofEntries_iff`: a document holds settings if every value that it gives is acceptable.
* `ofEntries_eq_ok_iff`: the settings that it holds are the defaults overlaid with it.
* `toOption_ofEntries_congr`: what settings it holds depends on the values that it gives.
-/

namespace DatagramEcho

/-- Whether a value is a table. -/
def Toml.Value.isTable : Toml.Value → Bool
  | .table _ _ => true
  | _ => false

theorem Toml.Value.exists_of_isTable {value : Toml.Value} (htable : value.isTable) :
    ∃ origin inner, value = .table origin inner := by
  cases value with
  | table origin inner => exact ⟨origin, inner, rfl⟩
  | _ => cases htable

/-! ## Entries with distinct keys -/

namespace Toml.Entries

variable {entries : Entries} {key : String} {value : Located Value}

theorem exists_of_last?_eq_some (hlast : last? entries key = some value) :
    ∃ entry ∈ entries, entry.1.value = key ∧ entry.2 = value := by
  induction entries with
  | nil => cases hlast
  | cons entry entries ih =>
    rw [last?_cons, Option.or_eq_some_iff] at hlast
    rcases hlast with hlater | ⟨-, hfirst⟩
    · obtain ⟨later, hmem, hlater⟩ := ih hlater
      exact ⟨later, List.mem_cons_of_mem _ hmem, hlater⟩
    · split_ifs at hfirst with hkey
      cases hfirst
      exact ⟨entry, List.mem_cons_self, hkey, rfl⟩

/-- Among distinct keys every entry is the last one of its key. -/
theorem last?_of_mem (hkeys : (entries.map (·.1.value)).Nodup)
    {entry : Located String × Located Value} (hmem : entry ∈ entries) :
    last? entries entry.1.value = some entry.2 := by
  induction entries with
  | nil => cases hmem
  | cons first entries ih =>
    obtain ⟨hnew, hkeys⟩ := List.nodup_cons.mp hkeys
    rw [last?_cons]
    rcases List.mem_cons.mp hmem with rfl | hlater
    · have hnone : last? entries entry.1.value = none := by
        rw [Option.eq_none_iff_forall_ne_some]
        intro value hlast
        -- a later entry of the key would be a second one
        obtain ⟨later, hmem, hkey, -⟩ := exists_of_last?_eq_some hlast
        exact hnew (List.mem_map.mpr ⟨later, hmem, hkey⟩)
      rw [hnone, if_pos rfl]
      rfl
    · rw [ih hkeys hlater, Option.some_or]

end Toml.Entries

open Toml

namespace Settings

variable {σ α : Type}

/-! ## One section -/

/-- A value is acceptable to a field. -/
def Field.Accepts (field : Field σ) (value : Located Value) : Prop :=
  ∃ state state', field.set state value = .ok state'

/-- Whether a value is acceptable does not depend on the fields that are set already. -/
def Field.Steady (field : Field σ) : Prop :=
  ∀ {value}, field.Accepts value → ∀ state, ∃ state', field.set state value = .ok state'

theorem Field.accepts_make_iff [Nonempty σ] {key : String} {read : Read α} {store : σ → α → σ}
    {value : Located Value} :
    (Field.make key read store).Accepts value ↔ ∃ a, read value = .ok a := by
  constructor
  · rintro ⟨state, state', hset⟩
    obtain ⟨a, hread, -⟩ := Field.exists_of_make_set hset
    exact ⟨a, hread⟩
  · rintro ⟨a, hread⟩
    obtain ⟨state⟩ := ‹Nonempty σ›
    exact ⟨state, store state a, by simp only [Field.make, hread]; rfl⟩

/-- A value is acceptable to a field if it spells something. -/
theorem Read.Reads.accepts_make_iff [Nonempty σ] {key : String} {read : Read α}
    {store : σ → α → σ} {Spells : Value → α → Prop} (hreads : read.Reads Spells)
    (value : Located Value) :
    (Field.make key read store).Accepts value ↔ ∃ a, Spells value.value a := by
  rw [Field.accepts_make_iff]
  exact exists_congr (hreads value)

theorem Field.steady_make {key : String} {read : Read α} {store : σ → α → σ} :
    (Field.make key read store).Steady := by
  rintro value ⟨state, state', hset⟩ other
  obtain ⟨a, hread, -⟩ := Field.exists_of_make_set hset
  exact ⟨store other a, by simp only [Field.make, hread]; rfl⟩

/-- Fields that can be told apart by their keys, and each of which can be set at any time. -/
structure Regular (fields : List (Field σ)) : Prop where
  /-- The keys are different. -/
  keys : (fields.map (·.key)).Nodup
  /-- No field depends on another one. -/
  steady : ∀ field ∈ fields, field.Steady

variable {fields : List (Field σ)} {entries : Entries}

theorem Regular.find?_eq_some_iff (hregular : Regular fields) {field : Field σ} {key : String} :
    fields.find? (·.key == key) = some field ↔ field ∈ fields ∧ field.key = key := by
  constructor
  · intro hfind
    exact ⟨List.mem_of_find?_eq_some hfind, by simpa using List.find?_some hfind⟩
  · rintro ⟨hmem, rfl⟩
    have hsome : (fields.find? (·.key == field.key)).isSome := by
      rw [List.find?_isSome]
      exact ⟨field, hmem, beq_self_eq_true _⟩
    obtain ⟨found, hfind⟩ := Option.isSome_iff_exists.mp hsome
    have hkey : found.key = field.key := by simpa using List.find?_some hfind
    rw [hfind, List.inj_on_of_nodup_map hregular.keys (List.mem_of_find?_eq_some hfind) hmem hkey]

/-- An entry can be taken if it is acceptable to the field of its key, if there is one. -/
theorem Regular.exists_setEntry_iff (hregular : Regular fields) (state : σ)
    (entry : Located String × Located Value) :
    (∃ state', setEntry fields state entry = .ok state') ↔
      ∀ field ∈ fields, field.key = entry.1.value → field.Accepts entry.2 := by
  unfold setEntry
  cases hfind : fields.find? (·.key == entry.1.value) with
  | none =>
    simp only [Except.ok.injEq, exists_eq', true_iff]
    intro field hmem hkey
    rw [(hregular.find?_eq_some_iff).mpr ⟨hmem, hkey⟩] at hfind
    cases hfind
  | some field =>
    obtain ⟨hmem, hkey⟩ := hregular.find?_eq_some_iff.mp hfind
    constructor
    · rintro ⟨state', hset⟩ other hother hotherKey
      rw [List.inj_on_of_nodup_map hregular.keys hother hmem (hotherKey.trans hkey.symm)]
      exact ⟨state, state', eq_ok_of_mapError_eq_ok hset⟩
    · intro haccepts
      obtain ⟨state', hset⟩ := hregular.steady field hmem (haccepts field hmem hkey) state
      exact ⟨state', by simp only [hset]; rfl⟩

/-- The entries of a section can be taken if each of them can. -/
theorem Regular.exists_overlay_iff (hregular : Regular fields) (state : σ) :
    (∃ state', overlay fields state entries = .ok state') ↔
      ∀ entry ∈ entries, ∀ field ∈ fields, field.key = entry.1.value → field.Accepts entry.2 := by
  induction entries generalizing state with
  | nil => exact ⟨fun _ => by simp, fun _ => ⟨state, rfl⟩⟩
  | cons entry entries ih =>
    rw [List.forall_mem_cons, ← hregular.exists_setEntry_iff state entry]
    constructor
    · rintro ⟨state', hoverlay⟩
      obtain ⟨middle, hset, hrest⟩ := exists_of_bind_eq_ok hoverlay
      exact ⟨⟨middle, hset⟩, (ih middle).mp ⟨state', hrest⟩⟩
    · rintro ⟨⟨middle, hset⟩, hrest⟩
      obtain ⟨state', hrest⟩ := (ih middle).mpr hrest
      refine ⟨state', ?_⟩
      rw [overlay_cons, hset]
      exact hrest

/-- Where keys are distinct, the section can be read if the value of every key is acceptable. -/
theorem Regular.exists_overlay_iff_last? (hregular : Regular fields)
    (hkeys : (entries.map (·.1.value)).Nodup) (state : σ) :
    (∃ state', overlay fields state entries = .ok state') ↔
      ∀ field ∈ fields, ∀ value, Entries.last? entries field.key = some value →
        field.Accepts value := by
  rw [hregular.exists_overlay_iff]
  constructor
  · intro haccepts field hfield value hlast
    obtain ⟨entry, hmem, hkey, rfl⟩ := Entries.exists_of_last?_eq_some hlast
    exact haccepts entry hmem field hfield hkey.symm
  · intro haccepts entry hmem field hfield hkey
    refine haccepts field hfield entry.2 ?_
    rw [hkey, Entries.last?_of_mem hkeys hmem]

/-! ## All sections -/

/-- A document gives a value to a key of a section. -/
def Gives (entries : Entries) (part key : String) (value : Located Value) : Prop :=
  ∃ given ∈ entries, ∃ origin inner, given.1.value = part ∧ given.2.value = .table origin inner ∧
    ∃ entry ∈ inner, entry.1.value = key ∧ entry.2 = value

/-- The value that a document gives to a key of a section, found by looking for it. -/
def given? (entries : Entries) (part key : String) : Option (Located Value) :=
  (Entries.last? entries part).bind fun given =>
    match given.value with
    | .table _ inner => Entries.last? inner key
    | _ => none

/-- Where keys are distinct, the value that is found is the only one that is given. -/
theorem gives_iff (hdistinct : entries.Distinct) {part key : String} {value : Located Value} :
    Gives entries part key value ↔ given? entries part key = some value := by
  unfold given?
  constructor
  · rintro ⟨given, hgiven, origin, inner, rfl, htable, entry, hentry, rfl, rfl⟩
    have hinner : Entries.Distinct inner := by
      have hvalue := hdistinct.values given hgiven
      rwa [htable, Value.distinct_table_iff] at hvalue
    rw [Entries.last?_of_mem hdistinct.keys hgiven, Option.bind_some, htable]
    exact Entries.last?_of_mem hinner.keys hentry
  · intro hfound
    obtain ⟨found, hlast, hinner⟩ := Option.bind_eq_some_iff.mp hfound
    obtain ⟨given, hgiven, hpart, rfl⟩ := Entries.exists_of_last?_eq_some hlast
    split at hinner
    · rename_i origin inner htable
      obtain ⟨entry, hentry, hkey, hvalue⟩ := Entries.exists_of_last?_eq_some hinner
      exact ⟨given, hgiven, origin, inner, hpart, htable, entry, hentry, hkey, hvalue⟩
    · cases hinner

/-- A key that a section knows. -/
structure KnownKey where
  /-- The section. -/
  part : String
  /-- The key. -/
  key : String
  /-- What is set by it. -/
  {α : Type}
  /-- What the values that the key takes spell. -/
  Spells : Value → α → Prop
  /-- Where in the settings it is set. -/
  get : Settings → α

/-- A value spells something that the key can be set to. -/
def KnownKey.Accepts (known : KnownKey) (value : Located Value) : Prop :=
  ∃ a, known.Spells value.value a

/-- The keys of all sections, in the order of their declaration. -/
def knownKeys : List KnownKey :=
  [⟨"server", "listen", SpellsText, (·.server.listen)⟩,
    ⟨"server", "buffer_size", SpellsCount, (·.server.bufferSize)⟩,
    ⟨"server", "empty_policy", SpellsChoice, (·.server.emptyPolicy)⟩,
    ⟨"server", "transform", SpellsChoice, (·.server.transform)⟩,
    ⟨"server", "runtime", SpellsChoice, (·.server.eventLoop)⟩,
    ⟨"client", "target", SpellsText, (·.client.target)⟩,
    ⟨"client", "bind", SpellsText, (·.client.bind)⟩,
    ⟨"client", "buffer_size", SpellsCount, (·.client.bufferSize)⟩,
    ⟨"client", "timeout_ms", SpellsCount, (·.client.timeoutMs)⟩,
    ⟨"client", "silence_ms", SpellsCount, (·.client.silenceMs)⟩,
    ⟨"client", "empty_policy", SpellsChoice, (·.client.emptyPolicy)⟩,
    ⟨"client", "transform", SpellsChoice, (·.client.transform)⟩,
    ⟨"client", "payloads", SpellsTexts, (·.client.payloads)⟩,
    ⟨"logging", "level", SpellsText, (·.logging.level)⟩]

/-- The names of all sections. -/
def sectionNames : List String :=
  ["server", "client", "logging"]

/-- The sections of a document are tables, as far as they are there. -/
def TablesOnly (entries : Entries) : Prop :=
  ∀ given ∈ entries, given.1.value ∈ sectionNames → given.2.value.isTable

instance (entries : Entries) : Decidable (TablesOnly entries) :=
  inferInstanceAs (Decidable (∀ given ∈ entries, _ → _))

theorem TablesOnly.last? (htables : TablesOnly entries) (part : String)
    (hpart : part ∈ sectionNames) (given : Located Value)
    (hlast : Entries.last? entries part = some given) :
    ∃ origin inner, given.value = .table origin inner := by
  obtain ⟨entry, hmem, rfl, rfl⟩ := Entries.exists_of_last?_eq_some hlast
  exact Value.exists_of_isTable (htables entry hmem hpart)

theorem regular_server : Regular Server.fields :=
  ⟨by decide, by simp [Server.fields, Field.steady_make]⟩

theorem regular_client : Regular Client.fields :=
  ⟨by decide, by simp [Client.fields, Field.steady_make]⟩

theorem regular_logging : Regular Logging.fields :=
  ⟨by decide, by simp [Logging.fields, Field.steady_make]⟩

theorem regular_sections : Regular sections :=
  ⟨by decide, by simp [sections, Field.steady_make]⟩

section Document

variable {wanted part : String} {default : σ} {store : Settings → σ → Settings}

/-- A table is acceptable as a section if the values of its known keys are acceptable. -/
theorem Regular.accepts_table_iff (hregular : Regular fields) {given : Located Value}
    {origin : Origin} {inner : Entries} (htable : given.value = .table origin inner)
    (hkeys : (inner.map (·.1.value)).Nodup) :
    (Field.make part (readSection wanted fields default) store).Accepts given ↔
      ∀ field ∈ fields, ∀ value, Entries.last? inner field.key = some value →
        field.Accepts value := by
  have : Nonempty Settings := ⟨{}⟩
  rw [Field.accepts_make_iff, ← hregular.exists_overlay_iff_last? hkeys default]
  unfold readSection Read.make
  rw [htable]
  constructor
  · rintro ⟨a, hread⟩
    exact ⟨a, eq_ok_of_mapError_eq_ok hread⟩
  · rintro ⟨a, hoverlay⟩
    exact ⟨a, by simp only [hoverlay]; rfl⟩

/-- A section that is there is acceptable if the values that it gives are. -/
theorem Regular.forall_accepts_iff (hregular : Regular fields) (hdistinct : entries.Distinct)
    (htable : ∀ given, Entries.last? entries part = some given →
      ∃ origin inner, given.value = .table origin inner) :
    (∀ given, Entries.last? entries part = some given →
      (Field.make part (readSection wanted fields default) store).Accepts given) ↔
      ∀ field ∈ fields, ∀ value, given? entries part field.key = some value →
        field.Accepts value := by
  unfold given?
  cases hlast : Entries.last? entries part with
  | none => simp
  | some given =>
    obtain ⟨origin, inner, hgiven⟩ := htable given hlast
    obtain ⟨entry, hmem, -, rfl⟩ := Entries.exists_of_last?_eq_some hlast
    have hinner : Entries.Distinct inner := by
      have hvalue := hdistinct.values entry hmem
      rwa [hgiven, Value.distinct_table_iff] at hvalue
    simp only [Option.some.injEq, forall_eq', Option.bind_some, hgiven]
    exact hregular.accepts_table_iff hgiven hinner.keys

/-- A document holds settings if every value that it gives to a known key is acceptable. -/
theorem exists_ofEntries_iff (hdistinct : entries.Distinct) (htables : TablesOnly entries) :
    (∃ settings, ofEntries entries = .ok settings) ↔
      ∀ known ∈ knownKeys, ∀ value, Gives entries known.part known.key value →
        known.Accepts value := by
  have hserver := htables.last? "server" (by decide)
  have hclient := htables.last? "client" (by decide)
  have hlogging := htables.last? "logging" (by decide)
  simp only [gives_iff hdistinct]
  -- a document is itself a section, whose fields are the sections
  unfold ofEntries
  rw [regular_sections.exists_overlay_iff_last? hdistinct.keys]
  simp only [sections, readServer, readClient, readLogging, List.forall_mem_cons, Field.key_make,
    regular_server.forall_accepts_iff hdistinct hserver,
    regular_client.forall_accepts_iff hdistinct hclient,
    regular_logging.forall_accepts_iff hdistinct hlogging]
  -- what is left is to go through the fields, of which there are only four kinds
  have : Nonempty Server := ⟨{}⟩
  have : Nonempty Client := ⟨{}⟩
  have : Nonempty Logging := ⟨{}⟩
  simp only [knownKeys, KnownKey.Accepts, Server.fields, Client.fields, Logging.fields,
    List.forall_mem_cons, List.not_mem_nil, false_implies, implies_true, and_true, and_assoc,
    Field.key_make, reads_text.accepts_make_iff, (reads_count _).accepts_make_iff,
    reads_texts.accepts_make_iff, reads_choice.accepts_make_iff]

end Document

/-! ## What the keys set -/

/-- A key is set to what the value that it is given spells, or left at its default. -/
structure KnownKey.Overlaid (known : KnownKey) (entries : Entries) (settings : Settings) :
    Prop where
  /-- What it is set to if it is given. -/
  given : ∀ value, Gives entries known.part known.key value →
    known.Spells value.value (known.get settings)
  /-- It stays as it is if it is not. -/
  missing : (∀ value, ¬ Gives entries known.part known.key value) →
    known.get settings = known.get {}

/-- The settings are the default settings with the known keys replaced that a document gives. -/
def Overlaid (entries : Entries) (settings : Settings) : Prop :=
  ∀ known ∈ knownKeys, known.Overlaid entries settings

/-- Settings are made of what the known keys set. -/
theorem eq_of_get_eq {first second : Settings}
    (hget : ∀ known ∈ knownKeys, known.get first = known.get second) : first = second := by
  obtain ⟨⟨⟩, ⟨⟩, ⟨⟩⟩ := first
  obtain ⟨⟨⟩, ⟨⟩, ⟨⟩⟩ := second
  simp only [knownKeys, List.forall_mem_cons, List.not_mem_nil, false_implies, implies_true,
    and_true] at hget
  simp only [hget]

theorem KnownKey.meaning {known : KnownKey} (hknown : known ∈ knownKeys) :
    Meaning known.Spells := by
  revert known
  simp only [knownKeys, List.forall_mem_cons, List.not_mem_nil, false_implies, implies_true,
    and_true, meaning_text, meaning_count, meaning_texts, meaning_choice]

/-- At most one settings are the defaults overlaid with a document. -/
theorem Overlaid.unique {first second : Settings} (hfirst : Overlaid entries first)
    (hsecond : Overlaid entries second) : first = second := by
  refine eq_of_get_eq fun known hknown => ?_
  by_cases hgiven : ∃ value, Gives entries known.part known.key value
  · obtain ⟨value, hgives⟩ := hgiven
    exact (KnownKey.meaning hknown).unique ((hfirst known hknown).given value hgives)
      ((hsecond known hknown).given value hgives)
  · rw [not_exists] at hgiven
    rw [(hfirst known hknown).missing hgiven, (hsecond known hknown).missing hgiven]

section Sections

variable {position : ℕ} {part key wanted : String} {read : Read α} {get : σ → α}
  {Spells : Value → α → Prop} {of : Settings → σ} {settings : Settings}

/-- What a section gives to a field is taken. -/
theorem Governs.taken_given? {default result : σ} (hgoverns : Governs fields position key read get)
    (htable : ∀ given, Entries.last? entries part = some given →
      ∃ origin inner, given.value = .table origin inner)
    (htaken : Taken (readSection wanted fields default) default (Entries.last? entries part)
      result) :
    Taken read (get default) (given? entries part key) (get result) := by
  unfold given?
  cases hlast : Entries.last? entries part with
  | none =>
    rw [hlast] at htaken
    exact congrArg get htaken
  | some given =>
    obtain ⟨origin, inner, hgiven⟩ := htable given hlast
    rw [hlast] at htaken
    have htaken := hgoverns.taken_readSection htaken
    rw [hgiven] at htaken
    rw [Option.bind_some, hgiven]
    exact htaken

/-- A key is set by its field if the section of the key is read. -/
theorem Governs.overlaid (hgoverns : Governs fields position key read get)
    (hreads : read.Reads Spells) (hdistinct : entries.Distinct) (htables : TablesOnly entries)
    (hpart : part ∈ sectionNames)
    (htaken : Taken (readSection wanted fields (of {})) (of {}) (Entries.last? entries part)
      (of settings)) :
    KnownKey.Overlaid ⟨part, key, Spells, fun settings => get (of settings)⟩ entries settings := by
  have htaken := hgoverns.taken_given? (htables.last? part hpart) htaken
  constructor
  · intro value hgives
    rw [(gives_iff hdistinct).mp hgives] at htaken
    exact (hreads value _).mp htaken
  · intro hnone
    have hnothing : given? entries part key = none := by
      rw [Option.eq_none_iff_forall_ne_some]
      exact fun value hvalue => hnone value ((gives_iff hdistinct).mpr hvalue)
    rw [hnothing] at htaken
    exact htaken

end Sections

/-- The settings in a document are the defaults overlaid with it. -/
theorem overlaid_of_ofEntries (hdistinct : entries.Distinct) (htables : TablesOnly entries)
    {settings : Settings} (hentries : ofEntries entries = .ok settings) :
    Overlaid entries settings := by
  obtain ⟨hserver, hclient, hlogging⟩ := governs_sections
  have hserver := hserver.taken_overlay hentries
  have hclient := hclient.taken_overlay hentries
  have hlogging := hlogging.taken_overlay hentries
  rw [readServer, Server.unset_eq] at hserver
  rw [readClient, Client.unset_eq] at hclient
  rw [readLogging, Logging.unset_eq] at hlogging
  obtain ⟨hlisten, hserverSize, hserverPolicy, hserverTransform, heventLoop⟩ := Server.governs
  obtain ⟨htarget, hbind, hclientSize, htimeoutMs, hsilenceMs, hclientPolicy, hclientTransform,
    hpayloads⟩ := Client.governs
  simp only [Overlaid, knownKeys, List.forall_mem_cons, List.not_mem_nil, false_implies,
    implies_true, and_true]
  exact ⟨hlisten.overlaid reads_text hdistinct htables (by decide) hserver,
    hserverSize.overlaid (reads_count _) hdistinct htables (by decide) hserver,
    hserverPolicy.overlaid reads_choice hdistinct htables (by decide) hserver,
    hserverTransform.overlaid reads_choice hdistinct htables (by decide) hserver,
    heventLoop.overlaid reads_choice hdistinct htables (by decide) hserver,
    htarget.overlaid reads_text hdistinct htables (by decide) hclient,
    hbind.overlaid reads_text hdistinct htables (by decide) hclient,
    hclientSize.overlaid (reads_count _) hdistinct htables (by decide) hclient,
    htimeoutMs.overlaid (reads_count _) hdistinct htables (by decide) hclient,
    hsilenceMs.overlaid (reads_count _) hdistinct htables (by decide) hclient,
    hclientPolicy.overlaid reads_choice hdistinct htables (by decide) hclient,
    hclientTransform.overlaid reads_choice hdistinct htables (by decide) hclient,
    hpayloads.overlaid reads_texts hdistinct htables (by decide) hclient,
    Logging.governs.overlaid reads_text hdistinct htables (by decide) hlogging⟩

/-- A document holds the settings that are the defaults overlaid with it, if each value that it
gives is acceptable, and no others. -/
theorem ofEntries_eq_ok_iff (hdistinct : entries.Distinct) (htables : TablesOnly entries)
    (settings : Settings) : ofEntries entries = .ok settings ↔ Overlaid entries settings := by
  constructor
  · exact overlaid_of_ofEntries hdistinct htables
  · intro hoverlaid
    have hsome : ∃ settings, ofEntries entries = .ok settings := by
      rw [exists_ofEntries_iff hdistinct htables]
      exact fun known hknown value hgives =>
        ⟨known.get settings, (hoverlaid known hknown).given value hgives⟩
    obtain ⟨found, hfound⟩ := hsome
    rw [hfound, (overlaid_of_ofEntries hdistinct htables hfound).unique hoverlaid]

/-! ## Documents that give the same values -/

/-- Two documents give the same values to the known keys, wherever they are written. -/
def GiveAlike (first second : Entries) : Prop :=
  ∀ known ∈ knownKeys, ∀ content,
    (∃ value, Gives first known.part known.key value ∧ value.content = content) ↔
      ∃ value, Gives second known.part known.key value ∧ value.content = content

theorem GiveAlike.symm {first second : Entries} (halike : GiveAlike first second) :
    GiveAlike second first :=
  fun known hknown content => (halike known hknown content).symm

theorem GiveAlike.overlaid {first second : Entries} (halike : GiveAlike first second)
    {settings : Settings} (hoverlaid : Overlaid first settings) : Overlaid second settings := by
  intro known hknown
  refine ⟨fun value hgives => ?_, fun hnone => ?_⟩
  -- the first document gives the key a value of the same content
  · obtain ⟨value', hgives', hcontent⟩ :=
      (halike known hknown value.content).mpr ⟨value, hgives, rfl⟩
    have hspells := (hoverlaid known hknown).given value' hgives'
    have hmeaning := KnownKey.meaning hknown
    rw [← hmeaning.content] at hspells ⊢
    have hvalues : value'.value.content = value.value.content := congrArg Located.value hcontent
    rwa [← hvalues]
  · refine (hoverlaid known hknown).missing fun value hgives => ?_
    obtain ⟨value', hgives', -⟩ := (halike known hknown value.content).mp ⟨value, hgives, rfl⟩
    exact hnone value' hgives'

/-- Documents that give the same values hold the same settings, or none. -/
theorem toOption_ofEntries_congr {entries' : Entries} (hdistinct : entries.Distinct)
    (hdistinct' : entries'.Distinct) (htables : TablesOnly entries)
    (htables' : TablesOnly entries') (halike : GiveAlike entries' entries) :
    (ofEntries entries').toOption = (ofEntries entries).toOption := by
  ext settings
  rw [toOption_eq_some_iff, toOption_eq_some_iff, ofEntries_eq_ok_iff hdistinct htables,
    ofEntries_eq_ok_iff hdistinct' htables']
  exact ⟨halike.overlaid, halike.symm.overlaid⟩

end Settings

end DatagramEcho

import DatagramEcho.Configuration
import DatagramEcho.Proofs.Settings.Tabled

/-!
# Settings are the defaults overlaid with a file

What a settings file says is an overlay of the default settings. A file is accepted if each value
that it gives to a known key is acceptable, and then it replaces the defaults of these keys. Nothing
else in the file counts: neither the order of its keys and sections, nor keys that are not known,
nor whether a section without known keys is there.

* `ofEntries_overlays`: all of this, for all entries with distinct keys.
* `ofText_eq_ok_iff_overlaid`: a text that is a document has distinct keys, and is an overlay.
-/

namespace DatagramEcho.Settings

open Toml

variable {text : String} {entries : Entries}

theorem toOption_ofText (hdocument : Toml.document text = .ok entries) :
    (ofText text).toOption = (ofEntries entries).toOption := by
  unfold ofText
  rw [hdocument]
  exact toOption_mapError _ _

theorem ofText_eq_ok_iff (hdocument : Toml.document text = .ok entries) (settings : Settings) :
    ofText text = .ok settings ↔ ofEntries entries = .ok settings := by
  constructor
  · intro htext
    refine eq_ok_of_toOption_eq_some ?_
    rw [← toOption_ofText hdocument, htext]
    rfl
  · intro hentries
    refine eq_ok_of_toOption_eq_some ?_
    rw [toOption_ofText hdocument, hentries]
    rfl

/-- A document that gives nothing to a known key holds the default settings. -/
theorem ofEntries_eq_default (hdistinct : entries.Distinct) (htables : TablesOnly entries)
    (hnone : ∀ known ∈ knownKeys, ∀ value, ¬ Gives entries known.part known.key value) :
    ofEntries entries = .ok {} := by
  rw [ofEntries_eq_ok_iff hdistinct htables]
  intro known hknown
  exact ⟨fun value hgives => absurd hgives (hnone known hknown value), fun _ => rfl⟩

/-- The settings in a document are the default settings overlaid with the known keys that it holds.
Tables of a document have distinct keys, by `distinct_of_document`. -/
theorem ofEntries_overlays (hdistinct : entries.Distinct) (htables : TablesOnly entries) :
    ((∃ settings, ofEntries entries = .ok settings) ↔
      ∀ known ∈ knownKeys, ∀ value, Gives entries known.part known.key value →
        known.Accepts value) ∧
    (∀ settings, ofEntries entries = .ok settings ↔ Overlaid entries settings) ∧
    (∀ entries' : Entries, entries'.Distinct → TablesOnly entries' → GiveAlike entries' entries →
      (ofEntries entries').toOption = (ofEntries entries).toOption) ∧
    (∀ text, Toml.document text = .ok entries →
      (∀ settings, ofText text = .ok settings ↔ Overlaid entries settings) ∧
      ∀ (read : String → Except Fault String) (arguments : CommandLine.Arguments) (path : String),
        arguments.config = some path → read path = .ok text →
        (∀ known ∈ knownKeys, ∀ value, ¬ Gives entries known.part known.key value) →
        Configuration.load read arguments =
          Configuration.load read { arguments with config := none }) ∧
    (∀ arrays : Entries, Agree (ofEntries arrays) (ofEntries (tabled arrays)) ∧
      (arrays.Distinct → TablesOnly (tabled arrays) → GiveAlike (tabled arrays) entries →
        (ofEntries arrays).toOption = (ofEntries entries).toOption)) := by
  have hoverlaid := ofEntries_eq_ok_iff hdistinct htables
  refine ⟨exists_ofEntries_iff hdistinct htables, hoverlaid, ?_, ?_, ?_⟩
  · intro entries' hdistinct' htables' halike
    exact toOption_ofEntries_congr hdistinct hdistinct' htables htables' halike
  · intro text hdocument
    have htext := ofText_eq_ok_iff hdocument
    refine ⟨fun settings => (htext settings).trans (hoverlaid settings), ?_⟩
    intro read arguments path hconfig hread hnone
    have hdefault := (htext {}).mpr (ofEntries_eq_default hdistinct htables hnone)
    unfold Configuration.load
    rw [hconfig]
    simp only [Configuration.readSettings, hread, hdefault]
    rfl
  · intro arrays
    have hagree := agree_tabled arrays
    refine ⟨hagree.symm, fun harrays htables' halike => ?_⟩
    rw [← hagree.toOption_eq]
    exact toOption_ofEntries_congr hdistinct (distinct_tabled harrays) htables htables' halike

/-- An entry without places. -/
def unplaced (key : String) (value : Value) : Located String × Located Value :=
  ({ value := key }, { value })

/-- A section on the server with a text, a number, a choice and a key that is not known holds the
same settings as the array of the first three of its fields. -/
theorem ofEntries_overlays_of_array :
    let entries : Entries :=
      [unplaced "server" (.table .header
        [unplaced "empty_policy" (.string "echo"), unplaced "color" (.boolean true),
          unplaced "buffer_size" (.integer 512), unplaced "listen" (.string "[::1]:7")])]
    let arrays : Entries :=
      [unplaced "server" (.array
        [{ value := .string "[::1]:7" }, { value := .integer 512 }, { value := .string "echo" }])]
    let settings : Settings :=
      { server := { listen := "[::1]:7", bufferSize := 512, emptyPolicy := .echo } }
    entries.Distinct ∧ TablesOnly entries ∧ ofEntries entries = .ok settings ∧
      Overlaid entries settings ∧ ofEntries arrays = .ok settings := by
  intro entries arrays settings
  have hdistinct : entries.Distinct := by
    refine ⟨by decide, fun entry hentry => ?_⟩
    obtain rfl := List.mem_singleton.mp hentry
    refine .table (by decide) fun entry hentry => .scalar ?_
    revert entry
    decide
  have harrays : arrays.Distinct := by
    refine ⟨by decide, fun entry hentry => ?_⟩
    obtain rfl := List.mem_singleton.mp hentry
    refine .array fun item hitem => .scalar ?_
    revert item
    decide
  have htables : TablesOnly entries := by decide
  have hsettings : ofEntries entries = .ok settings := rfl
  have halike : GiveAlike (tabled arrays) entries := by
    intro known hknown content
    simp only [gives_iff hdistinct, gives_iff (distinct_tabled harrays)]
    have hfound : given? (tabled arrays) known.part known.key =
        given? entries known.part known.key := by
      revert known
      simp only [knownKeys, List.forall_mem_cons, List.not_mem_nil, false_implies, implies_true,
        and_true]
      and_intros <;> rfl
    rw [hfound]
  obtain ⟨-, hoverlaid, -, -, htabled⟩ := ofEntries_overlays hdistinct htables
  refine ⟨hdistinct, htables, hsettings, (hoverlaid settings).mp hsettings, ?_⟩
  refine eq_ok_of_toOption_eq_some ?_
  rw [(htabled arrays).2 harrays (by decide) halike, hsettings]
  rfl

/-! ## Texts -/

/-- The settings in a text that is a document are the defaults overlaid with the document. -/
theorem ofText_eq_ok_iff_overlaid (hdocument : Toml.document text = .ok entries)
    (htables : TablesOnly entries) (settings : Settings) :
    ofText text = .ok settings ↔ Overlaid entries settings := by
  rw [ofText_eq_ok_iff hdocument, ofEntries_eq_ok_iff (distinct_of_document hdocument) htables]

example : (ofText "server = [\"[::1]:7\", 512, \"echo\"]\n").toOption =
    some { server := { listen := "[::1]:7", bufferSize := 512, emptyPolicy := .echo } } := by
  decide +kernel

/-- Texts that give the same values hold the same settings, or none. -/
theorem toOption_ofText_congr {text' : String} {entries' : Entries}
    (hdocument : Toml.document text = .ok entries) (hdocument' : Toml.document text' = .ok entries')
    (htables : TablesOnly entries) (htables' : TablesOnly entries')
    (halike : GiveAlike entries' entries) : (ofText text').toOption = (ofText text).toOption := by
  rw [toOption_ofText hdocument, toOption_ofText hdocument']
  exact toOption_ofEntries_congr (distinct_of_document hdocument) (distinct_of_document hdocument')
    htables htables' halike

end DatagramEcho.Settings

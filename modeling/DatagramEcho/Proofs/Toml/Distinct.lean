import DatagramEcho.Proofs.Outcome
import DatagramEcho.Toml.Document
import Mathlib.Data.List.Nodup
import Mathlib.Tactic.SplitIfs

/-!
# A document defines nothing twice

The lines of a document may name the same table many times, in headers, in dotted keys and between
braces. Each of them edits what is there already, and refuses a key that has a value. So whatever
text is accepted, no table in its document has two entries of one key, however deep the table lies.

* `Value.Distinct` and `Entries.Distinct`: no table has two entries of one key.
* `Entries.distinct_at`: an edit at the end of a path is as good as the edit itself.
* `Reader.Yields`: a property of everything that a reader gives.
* `Draft.Distinct`: what every line of a document keeps.
* `distinct_of_document`: the entries of a document are distinct.
-/

namespace DatagramEcho.Toml

/-- Whether a value holds no other values. -/
def Value.isScalar : Value → Bool
  | array _ | table _ _ | tables _ => false
  | _ => true

/-- No table in a value has two entries of one key. -/
inductive Value.Distinct : Value → Prop
  | scalar {value : Value} (hscalar : value.isScalar) : Distinct value
  | array {items : List (Located Value)} (hitems : ∀ item ∈ items, Distinct item.value) :
    Distinct (.array items)
  | table {origin : Origin} {entries : Entries} (hkeys : (entries.map (·.1.value)).Nodup)
    (hvalues : ∀ entry ∈ entries, Distinct entry.2.value) : Distinct (.table origin entries)
  | tables {elements : List (Located Entries)}
    (helements : ∀ element ∈ elements, Distinct (.table .header element.value)) :
    Distinct (.tables elements)

/-- No two entries have the same key, nor do two entries of a table among their values. -/
structure Entries.Distinct (entries : Entries) : Prop where
  /-- The keys are different. -/
  keys : (entries.map (·.1.value)).Nodup
  /-- So are the keys of the tables in the values. -/
  values : ∀ entry ∈ entries, entry.2.value.Distinct

@[simp]
theorem Value.distinct_table_iff {origin : Origin} {entries : Entries} :
    (Value.table origin entries).Distinct ↔ Entries.Distinct entries := by
  constructor
  · intro hdistinct
    cases hdistinct with
    | scalar hscalar => cases hscalar
    | table hkeys hvalues => exact ⟨hkeys, hvalues⟩
  · intro hdistinct
    exact .table hdistinct.keys hdistinct.values

@[simp]
theorem Value.distinct_tables_iff {elements : List (Located Entries)} :
    (Value.tables elements).Distinct ↔
      ∀ element ∈ elements, Entries.Distinct element.value := by
  constructor
  · intro hdistinct
    cases hdistinct with
    | scalar hscalar => cases hscalar
    | tables helements =>
      exact fun element hmem => Value.distinct_table_iff.mp (helements element hmem)
  · intro helements
    exact .tables fun element hmem => Value.distinct_table_iff.mpr (helements element hmem)

/-! ## Edits -/

namespace Entries

variable {entries inner : Entries} {name : Name} {key : String} {value : Located Value}

theorem mem_of_get?_eq_some (hget : entries.get? key = some value) :
    ∃ entry ∈ entries, entry.1.value = key ∧ entry.2 = value := by
  obtain ⟨entry, hfind, rfl⟩ := Option.map_eq_some_iff.mp hget
  exact ⟨entry, List.mem_of_find?_eq_some hfind, by simpa using List.find?_some hfind, rfl⟩

theorem not_mem_of_get?_eq_none (hget : entries.get? key = none) :
    key ∉ entries.map (·.1.value) := by
  have hfind : entries.find? (·.1.value == key) = none := Option.map_eq_none_iff.mp hget
  rw [List.find?_eq_none] at hfind
  simpa using hfind

theorem distinct_nil : Entries.Distinct [] :=
  ⟨List.nodup_nil, by simp⟩

theorem Distinct.get? (hdistinct : entries.Distinct) (hget : entries.get? key = some value) :
    value.value.Distinct := by
  obtain ⟨entry, hmem, -, rfl⟩ := mem_of_get?_eq_some hget
  exact hdistinct.values entry hmem

/-- A new key may be added. -/
theorem Distinct.concat (hdistinct : entries.Distinct) (hget : entries.get? name.value = none)
    (hvalue : value.value.Distinct) : Entries.Distinct (entries ++ [(name, value)]) := by
  have hnew := not_mem_of_get?_eq_none hget
  refine ⟨?_, ?_⟩
  · rw [List.map_append, List.nodup_append']
    refine ⟨hdistinct.keys, List.nodup_singleton _, ?_⟩
    simpa using hnew
  · intro entry hmem
    rcases List.mem_append.mp hmem with hold | hentry
    · exact hdistinct.values entry hold
    · obtain rfl := List.mem_singleton.mp hentry
      exact hvalue

/-- A key may get another value. -/
theorem Distinct.replace (hdistinct : entries.Distinct) (hvalue : value.value.Distinct) :
    (entries.replace key value).Distinct := by
  refine ⟨?_, ?_⟩
  · have hkeys : (entries.replace key value).map (·.1.value) = entries.map (·.1.value) := by
      rw [Entries.replace, List.map_map]
      refine List.map_congr_left fun entry _ => ?_
      dsimp only [Function.comp_apply]
      split_ifs <;> rfl
    rw [hkeys]
    exact hdistinct.keys
  · intro entry hmem
    obtain ⟨old, hold, rfl⟩ := List.mem_map.mp hmem
    split_ifs
    · exact hvalue
    · exact hdistinct.values old hold

theorem Distinct.erase (hdistinct : entries.Distinct) : (entries.erase key).Distinct := by
  have hsublist : (entries.erase key).Sublist entries := List.filter_sublist
  exact ⟨hdistinct.keys.sublist (hsublist.map _),
    fun entry hmem => hdistinct.values entry (hsublist.mem hmem)⟩

/-- An edit of the table at the end of a path keeps a document distinct if it keeps that table so.
The tables that are created on the way have one entry. -/
theorem distinct_at {α : Type} {use : PathUse}
    {edit : Origin → Entries → Except Cause (α × Entries)} {P : α → Prop}
    (hedit : ∀ {origin entries result}, entries.Distinct → edit origin entries = .ok result →
      P result.1 ∧ result.2.Distinct)
    {path before : List Name} {origin : Origin} {result : α × Entries}
    (hdistinct : entries.Distinct)
    (hat : Entries.at use edit before path origin entries = .ok result) :
    P result.1 ∧ result.2.Distinct := by
  induction path generalizing before origin entries result with
  | nil => exact hedit hdistinct hat
  | cons name path ih =>
    unfold Entries.at at hat
    -- every way through the path ends with the edit of some table, which is put back in its place
    split at hat
    next hget =>
      obtain ⟨⟨a, inner⟩, hnext, hresult⟩ := exists_of_bind_eq_ok hat
      obtain ⟨ha, hinner⟩ := ih distinct_nil hnext
      cases hresult
      exact ⟨ha, hdistinct.concat hget (Value.distinct_table_iff.mpr hinner)⟩
    next origin inner span hget =>
      have htable := Value.distinct_table_iff.mp (hdistinct.get? hget)
      split at hat
      next => cases hat
      next =>
        obtain ⟨⟨a, inner⟩, hnext, hresult⟩ := exists_of_bind_eq_ok hat
        obtain ⟨ha, hinner⟩ := ih htable hnext
        cases hresult
        exact ⟨ha, hdistinct.replace (Value.distinct_table_iff.mpr hinner)⟩
    next last earlier span hget =>
      have helements := Value.distinct_tables_iff.mp (hdistinct.get? hget)
      obtain ⟨hlast, hearlier⟩ := List.forall_mem_cons.mp helements
      obtain ⟨⟨a, inner⟩, hnext, hresult⟩ := exists_of_bind_eq_ok hat
      obtain ⟨ha, hinner⟩ := ih hlast hnext
      cases hresult
      refine ⟨ha, hdistinct.replace (Value.distinct_tables_iff.mpr ?_)⟩
      exact List.forall_mem_cons.mpr ⟨hinner, hearlier⟩
    next => cases hat
    next => cases hat

/-- A dotted key is refused if it has a value. -/
theorem Distinct.define (hdistinct : entries.Distinct) (hvalue : value.value.Distinct)
    {use : PathUse} {table : Option (List String)} {origin : Origin} {key : Key} {result : Entries}
    (hdefine : entries.define use table origin key value = .ok result) : result.Distinct := by
  obtain ⟨result, hat, rfl⟩ := exists_of_map_eq_ok hdefine
  refine (distinct_at (P := fun _ => True) ?_ hdistinct hat).2
  intro origin entries result hdistinct hadd
  split_ifs at hadd with hdotted hget
  cases hadd
  refine ⟨trivial, hdistinct.concat ?_ hvalue⟩
  simpa using hget

theorem distinct_ofPairs {pairs : List (Key × Located Value)}
    (hpairs : ∀ pair ∈ pairs, pair.2.value.Distinct) (hentries : ofPairs pairs = .ok entries) :
    entries.Distinct := by
  have hfold : ∀ {before : Entries}, before.Distinct →
      pairs.foldlM (fun entries pair => entries.define .braces none .braces pair.1 pair.2) before =
        .ok entries → entries.Distinct := by
    clear hentries
    induction pairs with
    | nil =>
      intro before hbefore hfold
      cases hfold
      exact hbefore
    | cons pair pairs ih =>
      intro before hbefore hfold
      obtain ⟨hpair, hpairs⟩ := List.forall_mem_cons.mp hpairs
      obtain ⟨next, hdefine, hfold⟩ := exists_of_bind_eq_ok hfold
      exact ih hpairs (hbefore.define hpair hdefine) hfold
  exact hfold distinct_nil hentries

end Entries

/-! ## Readers -/

namespace Reader

variable {α : Type} {P : α → Prop} {reader second : Reader α} {words : Mistake → Mistake}

/-- Everything that a reader gives has a property. -/
def Yields (reader : Reader α) (P : α → Prop) : Prop :=
  ∀ {input a rest}, reader input = .ok (a, rest) → P a

theorem Yields.mapMistake (hyields : reader.Yields P) : (reader.mapMistake words).Yields P :=
  fun hread => hyields (eq_ok_of_mapError_eq_ok hread)

theorem Yields.orElse (hfirst : reader.Yields P) (hsecond : second.Yields P) :
    (reader.orElse second).Yields P := by
  intro input a rest hread
  unfold Reader.orElse at hread
  split at hread
  next result hresult =>
    cases hread
    exact hfirst hresult
  next mistake hmistake =>
    split_ifs at hread
    exact hsecond hread

theorem Yields.located (hyields : reader.Yields P) :
    reader.located.Yields fun found => P found.value := by
  intro input found rest hread
  obtain ⟨⟨a, rest⟩, hvalue, hfound⟩ := exists_of_map_eq_ok hread
  cases hfound
  exact hyields hvalue

end Reader

open Reader

theorem isScalar_of_fitInteger {place : List Char} {number : Int} {value : Value}
    (hfit : fitInteger place number = .ok value) : value.isScalar := by
  unfold fitInteger at hfit
  dsimp only at hfit
  split_ifs at hfit
  cases hfit
  rfl

theorem yields_basedReader (base : ℕ) (subject : String) (place : List Char) :
    (basedReader base subject place).Yields (·.isScalar) := by
  intro input value rest hread
  obtain ⟨⟨digits, rest⟩, -, hread⟩ := exists_of_bind_eq_ok hread
  obtain ⟨number, hfit, hread⟩ := exists_of_bind_eq_ok hread
  cases hread
  exact isScalar_of_fitInteger hfit

theorem yields_integerReader : Reader.Yields integerReader (·.isScalar) := by
  intro input value rest hread
  unfold integerReader at hread
  split at hread
  · exact yields_basedReader _ _ _ hread
  · exact yields_basedReader _ _ _ hread
  · exact yields_basedReader _ _ _ hread
  · obtain ⟨⟨⟨negative, digits⟩, rest⟩, -, hread⟩ := exists_of_bind_eq_ok hread
    obtain ⟨number, hfit, hread⟩ := exists_of_bind_eq_ok hread
    cases hread
    exact isScalar_of_fitInteger hfit

theorem yields_finiteReader : Reader.Yields finiteReader (·.isScalar) := by
  intro input value rest hread
  obtain ⟨⟨⟨negative, whole⟩, rest⟩, -, hread⟩ := exists_of_bind_eq_ok hread
  obtain ⟨⟨⟨places, power⟩, rest⟩, -, hread⟩ := exists_of_bind_eq_ok hread
  dsimp only at hread
  split_ifs at hread
  · cases hread
  · cases hread
    rfl

theorem yields_specialReader : Reader.Yields specialReader (·.isScalar) := by
  intro input value rest hread
  unfold specialReader at hread
  split at hread <;> cases hread <;> rfl

theorem yields_floatReader : Reader.Yields floatReader (·.isScalar) :=
  Yields.mapMistake (yields_finiteReader.orElse yields_specialReader)

theorem yields_scalarReader : Reader.Yields scalarReader (·.isScalar) := by
  intro input value rest hread
  unfold scalarReader at hread
  split at hread
  · cases hread
  -- texts, in either kind of quotation marks
  · obtain ⟨⟨text, rest⟩, -, hread⟩ := exists_of_map_eq_ok hread
    cases hread
    rfl
  · obtain ⟨⟨text, rest⟩, -, hread⟩ := exists_of_map_eq_ok hread
    cases hread
    rfl
  -- words
  · cases hread
    rfl
  · cases hread
    rfl
  · cases hread
  · cases hread
  -- numbers
  · exact yields_specialReader (eq_ok_of_mapError_eq_ok hread)
  · exact yields_specialReader (eq_ok_of_mapError_eq_ok hread)
  · exact yields_integerReader (eq_ok_of_mapError_eq_ok hread)
  · exact yields_floatReader (eq_ok_of_mapError_eq_ok hread)
  · dsimp only at hread
    split_ifs at hread
    refine Yields.orElse ?_ (yields_floatReader.orElse yields_integerReader) hread
    intro input value rest hmoment
    obtain ⟨⟨moment, rest⟩, -, hmoment⟩ := exists_of_map_eq_ok hmoment
    cases hmoment
    rfl

section Nested

variable {reader : Reader (Located Value)} (hreader : reader.Yields (·.value.Distinct))

include hreader

theorem yields_itemReader : (itemReader reader).Yields (·.value.Distinct) := by
  intro input item rest hread
  obtain ⟨start, -, hread⟩ := exists_of_bind_eq_ok hread
  obtain ⟨⟨item, rest⟩, hitem, hread⟩ := exists_of_bind_eq_ok hread
  obtain ⟨stop, -, hread⟩ := exists_of_bind_eq_ok hread
  cases hread
  exact hreader hitem

theorem distinct_of_moreItems {fuel input rest : List Char} {before items : List (Located Value)}
    (hbefore : ∀ item ∈ before, item.value.Distinct)
    (hitems : moreItems reader fuel before input = .ok (items, rest)) :
    ∀ item ∈ items, item.value.Distinct := by
  induction fuel generalizing before input with
  | nil =>
    cases hitems
    simpa using hbefore
  | cons c fuel ih =>
    unfold moreItems at hitems
    split at hitems
    next hfuel =>
      cases hfuel
      split at hitems
      next item later hitem =>
        exact ih (List.forall_mem_cons.mpr ⟨yields_itemReader hreader hitem, hbefore⟩) hitems
      next =>
        split_ifs at hitems
        cases hitems
        simpa using hbefore
    next =>
      cases hitems
      simpa using hbefore

theorem yields_arrayReader : (arrayReader reader).Yields Value.Distinct := by
  have hitems : (itemsReader reader).Yields fun items => ∀ item ∈ items, item.value.Distinct := by
    intro input items rest hread
    unfold itemsReader at hread
    split at hread
    next item later hitem =>
      obtain ⟨⟨items, rest⟩, hmore, hread⟩ := exists_of_bind_eq_ok hread
      cases hread
      exact distinct_of_moreItems hreader (by simpa using yields_itemReader hreader hitem) hmore
    next =>
      split_ifs at hread
      cases hread
      simp
  intro input value rest hread
  obtain ⟨⟨items, rest⟩, hread', hread⟩ := exists_of_bind_eq_ok hread
  obtain ⟨stop, -, hread⟩ := exists_of_bind_eq_ok hread
  split at hread
  · cases hread
    exact .array (hitems hread')
  · cases hread

theorem yields_pairReader : (pairReader reader).Yields (·.2.value.Distinct) := by
  intro input pair rest hread
  obtain ⟨⟨key, rest⟩, -, hread⟩ := exists_of_bind_eq_ok hread
  obtain ⟨⟨_, rest⟩, -, hread⟩ := exists_of_bind_eq_ok hread
  obtain ⟨⟨value, rest⟩, hvalue, hread⟩ := exists_of_bind_eq_ok hread
  cases hread
  exact hreader (eq_ok_of_mapError_eq_ok hvalue)

theorem yields_innerPairReader : (innerPairReader reader).Yields (·.2.value.Distinct) := by
  intro input pair rest hread
  obtain ⟨⟨pair, rest⟩, hpair, hread⟩ := exists_of_map_eq_ok hread
  cases hread
  exact yields_pairReader hreader hpair

theorem distinct_of_morePairs {fuel input rest : List Char}
    {before pairs : List (Key × Located Value)}
    (hbefore : ∀ pair ∈ before, pair.2.value.Distinct)
    (hpairs : morePairs reader fuel before input = .ok (pairs, rest)) :
    ∀ pair ∈ pairs, pair.2.value.Distinct := by
  induction fuel generalizing before input with
  | nil =>
    cases hpairs
    simpa using hbefore
  | cons c fuel ih =>
    unfold morePairs at hpairs
    split at hpairs
    next hfuel =>
      cases hfuel
      split at hpairs
      next pair later hpair =>
        exact ih (List.forall_mem_cons.mpr ⟨yields_innerPairReader hreader hpair, hbefore⟩) hpairs
      next =>
        split_ifs at hpairs
        cases hpairs
        simpa using hbefore
    next =>
      cases hpairs
      simpa using hbefore

theorem yields_bracesReader : (bracesReader reader).Yields Value.Distinct := by
  have hpairs : (pairsReader reader).Yields fun pairs => ∀ pair ∈ pairs, pair.2.value.Distinct := by
    intro input pairs rest hread
    unfold pairsReader at hread
    split at hread
    next pair later hpair =>
      refine distinct_of_morePairs hreader ?_ hread
      simpa using yields_innerPairReader hreader hpair
    next =>
      split_ifs at hread
      cases hread
      simp
  intro input value rest hread
  obtain ⟨⟨pairs, rest⟩, hread', hread⟩ := exists_of_bind_eq_ok hread
  dsimp only at hread
  -- two keys that are the same are refused before the closing brace is looked for
  split at hread
  next => cases hread
  next entries hentries =>
    split at hread
    · cases hread
      exact Value.distinct_table_iff.mpr (Entries.distinct_ofPairs (hpairs hread') hentries)
    · cases hread

end Nested

theorem yields_valueReader (depth : ℕ) : (valueReader depth).Yields (·.value.Distinct) := by
  -- the induction is on the depth that is left for the values inside
  induction depth with
  | zero =>
    unfold valueReader
    refine Yields.located ?_
    intro input value rest hread
    dsimp only at hread
    split at hread
    · cases hread
    · cases hread
    · exact .scalar (yields_scalarReader hread)
  | succ depth ih =>
    unfold valueReader
    refine Yields.located ?_
    intro input value rest hread
    dsimp only at hread
    split at hread
    · exact yields_arrayReader ih hread
    · exact yields_bracesReader ih hread
    · exact .scalar (yields_scalarReader hread)

/-! ## Lines -/

namespace Draft

variable {draft result : Draft} {key : Key}

/-- The part of a document that has been read is distinct. -/
structure Distinct (draft : Draft) : Prop where
  /-- So is the document without the open table. -/
  root : draft.root.Distinct
  /-- So is the open table. -/
  entries : draft.entries.Distinct

theorem Distinct.close (hdistinct : draft.Distinct) {entries : Entries}
    (hclose : draft.close = .ok entries) : entries.Distinct := by
  unfold Draft.close at hclose
  split at hclose
  next =>
    cases hclose
    exact hdistinct.entries
  next key hkey =>
    obtain ⟨result, hat, rfl⟩ := exists_of_map_eq_ok hclose
    refine (Entries.distinct_at (P := fun _ => True) ?_ hdistinct.root hat).2
    intro origin entries result hentries hput
    split_ifs at hput with helement hget
    -- one more table in an array of tables
    · split at hput
      next elements span hget =>
        cases hput
        refine ⟨trivial, hentries.replace (Value.distinct_tables_iff.mpr ?_)⟩
        exact List.forall_mem_cons.mpr
          ⟨hdistinct.entries, Value.distinct_tables_iff.mp (hentries.get? hget)⟩
      next => cases hput
    -- a table with a key of its own
    · cases hput
      refine ⟨trivial, hentries.concat ?_ (Value.distinct_table_iff.mpr hdistinct.entries)⟩
      simpa using hget

theorem Distinct.define (hdistinct : draft.Distinct) {value : Located Value}
    (hvalue : value.value.Distinct) (hdefine : draft.define key value = .ok result) :
    result.Distinct := by
  obtain ⟨entries, hentries, hdefine⟩ := exists_of_bind_eq_ok hdefine
  cases hdefine
  exact ⟨hdistinct.root, hdistinct.entries.define hvalue hentries⟩

theorem Distinct.openTable (hdistinct : draft.Distinct) {span : Span}
    (hopen : draft.openTable key span = .ok result) : result.Distinct := by
  obtain ⟨root, hclose, hopen⟩ := exists_of_bind_eq_ok hopen
  obtain ⟨⟨entries, root⟩, hat, hopen⟩ := exists_of_bind_eq_ok hopen
  cases hopen
  -- a table that is taken out of the document was distinct there
  obtain ⟨hentries, hroot⟩ := Entries.distinct_at (P := Entries.Distinct) (by
    intro origin entries result hentries htake
    split at htake
    next =>
      cases htake
      exact ⟨Entries.distinct_nil, hentries⟩
    next inner span hget =>
      cases htake
      exact ⟨Value.distinct_table_iff.mp (hentries.get? hget), hentries.erase⟩
    next => cases htake) (hdistinct.close hclose) hat
  exact ⟨hroot, hentries⟩

theorem Distinct.openElement (hdistinct : draft.Distinct) {span : Span}
    (hopen : draft.openElement key span = .ok result) : result.Distinct := by
  obtain ⟨root, hclose, hopen⟩ := exists_of_bind_eq_ok hopen
  obtain ⟨⟨_, root⟩, hat, hopen⟩ := exists_of_bind_eq_ok hopen
  cases hopen
  obtain ⟨-, hroot⟩ := Entries.distinct_at (P := fun _ => True) (by
    intro origin entries result hentries hprepare
    split at hprepare
    next hget =>
      cases hprepare
      exact ⟨trivial, hentries.concat hget (Value.distinct_tables_iff.mpr (by simp))⟩
    next =>
      cases hprepare
      exact ⟨trivial, hentries⟩
    next => cases hprepare) (hdistinct.close hclose) hat
  exact ⟨hroot, Entries.distinct_nil⟩

end Draft

variable {draft result : Draft} {input rest : List Char}

theorem distinct_of_anyHeaderReader (hdistinct : draft.Distinct)
    (hread : anyHeaderReader draft input = .ok (result, rest)) : result.Distinct := by
  have hread := eq_ok_of_mapError_eq_ok hread
  -- both kinds of header are read in the same way
  have hheader : ∀ {start : Key → Span → Except Cause Draft} {opening closing : List Char},
      (∀ {key span result}, start key span = .ok result → result.Distinct) →
      headerReader start opening closing input = .ok (result, rest) → result.Distinct := by
    intro start opening closing hstart hread
    obtain ⟨⟨header, rest⟩, -, hread⟩ := exists_of_bind_eq_ok hread
    obtain ⟨draft, hmistake, hread⟩ := exists_of_bind_eq_ok hread
    cases hread
    exact hstart (eq_ok_of_mapError_eq_ok hmistake)
  dsimp only at hread
  split at hread
  · exact hheader (fun hopen => hdistinct.openElement hopen) hread
  · cases hread
  · exact hheader (fun hopen => hdistinct.openTable hopen) hread

theorem distinct_of_definitionReader (hdistinct : draft.Distinct)
    (hread : definitionReader draft input = .ok (result, rest)) : result.Distinct := by
  obtain ⟨⟨⟨key, value⟩, rest⟩, hpair, hread⟩ := exists_of_bind_eq_ok hread
  obtain ⟨⟨_, rest⟩, -, hread⟩ := exists_of_bind_eq_ok hread
  obtain ⟨draft, hmistake, hread⟩ := exists_of_bind_eq_ok hread
  cases hread
  refine hdistinct.define ?_ (eq_ok_of_mapError_eq_ok hmistake)
  exact yields_pairReader (yields_valueReader nestingLimit) hpair

theorem distinct_of_readLines {fuel : List Char} (hdistinct : draft.Distinct)
    (hread : readLines draft fuel input = .ok result) : result.Distinct := by
  induction fuel generalizing draft input with
  | nil =>
    unfold readLines at hread
    split at hread
    · cases hread
      exact hdistinct
    · cases hread
    · contradiction
  | cons c fuel ih =>
    unfold readLines at hread
    split at hread
    · cases hread
      exact hdistinct
    · contradiction
    next hfuel hrest =>
      cases hfuel
      split_ifs at hread
      · obtain ⟨⟨draft, rest⟩, hheader, hread⟩ := exists_of_bind_eq_ok hread
        exact ih (distinct_of_anyHeaderReader hdistinct hheader) hread
      · obtain ⟨⟨_, rest⟩, -, hread⟩ := exists_of_bind_eq_ok hread
        exact ih hdistinct hread
      · obtain ⟨⟨_, rest⟩, -, hread⟩ := exists_of_bind_eq_ok hread
        exact ih hdistinct hread
      · obtain ⟨⟨draft, rest⟩, hdefinition, hread⟩ := exists_of_bind_eq_ok hread
        exact ih (distinct_of_definitionReader hdistinct hdefinition) hread

/-- Whatever a text spells, nothing in its document is defined twice. -/
theorem distinct_of_document {text : String} {entries : Entries}
    (hdocument : document text = .ok entries) : entries.Distinct := by
  obtain ⟨draft, hread, hclose⟩ := exists_of_bind_eq_ok hdocument
  have hstart : Draft.Distinct {} := ⟨Entries.distinct_nil, Entries.distinct_nil⟩
  exact (distinct_of_readLines hstart hread).close (eq_ok_of_mapError_eq_ok hclose)

end DatagramEcho.Toml

import DatagramEcho.Toml.Key
import DatagramEcho.Toml.Value

/-!
# Defining tables

Each header and each dotted key of a document names a path of tables. A path may pass through
tables that are there already, and creates those that are not. A document must not define anything
twice: a table with a header or braces of its own takes no dotted keys from outside, a table made by
dotted keys gets no header, and a key has one value.

* `Entries.at` edits the table at the end of a path.
* `Entries.define` defines a dotted key.
* `Draft` is a document of which some lines have been read.
-/

namespace DatagramEcho.Toml

/-- How the tables of a path are looked up. -/
inductive PathUse where
  /-- They lead to a header. -/
  | header
  /-- They lead to a dotted key of a line. -/
  | line
  /-- They lead to a dotted key between braces. -/
  | braces
  deriving Repr, DecidableEq

namespace PathUse

/-- The origin of a table that is created on a path. -/
def created : PathUse → Origin
  | header => .implied
  | line | braces => .dotted

/-- Why a path may not enter a table that is there already, if it may not. `before` are the names
up to that of the table. -/
def refusal? (use : PathUse) (before : List Name) (name : Name) (origin : Origin) : Option Cause :=
  match use, origin with
  | braces, .braces | line, .header => some (.duplicateKey name.value none)
  | _, .braces => some (.extendsValue (texts (before ++ [name])) (Value.table .braces []).typeName)
  | _, _ => none

end PathUse

/-- Edit the table at the end of `path`, creating the tables that are missing. `edit` gets the
origin of that table and its entries. A path through an array of tables means its last element.
`before` are the names that have led to this table. -/
def Entries.at {α : Type} (use : PathUse) (edit : Origin → Entries → Except Cause (α × Entries))
    (before : List Name) :
    (path : List Name) → (origin : Origin) → (entries : Entries) → Except Cause (α × Entries)
  | [], origin, entries => edit origin entries
  | name :: path, _, entries =>
    let next := Entries.at use edit (before ++ [name]) path
    match entries.get? name.value with
    | none => do
      let (result, inner) ← next use.created []
      return (result, entries ++ [(name, { value := .table use.created inner })])
    | some ⟨.table origin inner, span⟩ =>
      match use.refusal? before name origin with
      | some cause => .error cause
      | none => do
        let (result, inner) ← next origin inner
        return (result, entries.replace name.value ⟨.table origin inner, span⟩)
    | some ⟨.tables (last :: earlier), span⟩ => do
      let (result, inner) ← next .header last.value
      let elements := { last with value := inner } :: earlier
      return (result, entries.replace name.value ⟨.tables elements, span⟩)
    | some ⟨.tables [], _⟩ => .error (.duplicateKey name.value none)
    | some ⟨value, _⟩ => .error (.extendsValue (texts (before ++ [name])) value.typeName)

/-- Define a key under a path of dotted tables. The last table of the path has to be one that dotted
keys have made. `table` is the path of the table where the key is defined, for complaints. -/
def Entries.define (use : PathUse) (table : Option (List String)) (origin : Origin)
    (entries : Entries) (key : Key) (value : Located Value) : Except Cause Entries :=
  let add (origin : Origin) (entries : Entries) : Except Cause (Unit × Entries) :=
    if ¬ key.path.isEmpty ∧ origin ≠ .dotted then .error (.duplicateKey key.last.value none)
    else if (entries.get? key.last.value).isSome then
      .error (.duplicateKey key.last.value table)
    else .ok ((), entries ++ [(key.last, value)])
  (Entries.at use add [] key.path origin entries).map (·.2)

/-- The entries of a table between braces whose keys and values are `pairs`. -/
def Entries.ofPairs (pairs : List (Key × Located Value)) : Except Cause Entries :=
  pairs.foldlM (fun entries pair => entries.define .braces none .braces pair.1 pair.2) []

/-- A document of which some lines have been read. The table to which key lines belong is kept apart
until the next header. -/
structure Draft where
  /-- The document without the open table. -/
  root : Entries := []
  /-- The header of the open table, or `none` before the first header. -/
  header : Option Key := none
  /-- Whether the open table is an element of an array of tables. -/
  element : Bool := false
  /-- The entries of the open table. -/
  entries : Entries := []
  /-- From the header of the open table to its last value. -/
  span : Option Span := none

namespace Draft

/-- The complaint that a header names something that is there already. -/
def repeated (key : Key) : Cause :=
  .duplicateKey (nameText key.last.value) (some (texts key.path))

/-- Put the open table into the document. -/
def close (draft : Draft) : Except Cause Entries :=
  match draft.header with
  | none => .ok draft.entries
  | some key =>
    let put (_ : Origin) (entries : Entries) : Except Cause (Unit × Entries) :=
      if draft.element then
        match entries.get? key.last.value with
        | some ⟨.tables elements, span⟩ =>
          let elements := ⟨draft.entries, draft.span⟩ :: elements
          let span := Value.extendSpan span draft.span
          .ok ((), entries.replace key.last.value ⟨.tables elements, span⟩)
        | _ => .error (repeated key)
      else if (entries.get? key.last.value).isSome then .error (repeated key)
      else .ok ((), entries ++ [(key.last, ⟨.table .header draft.entries, draft.span⟩)])
    (Entries.at .header put [] key.path .header draft.root).map (·.2)

/-- The path of the open table. -/
def path (draft : Draft) : List String :=
  match draft.header with
  | none => []
  | some key => texts (key.path ++ [key.last])

/-- A line that gives a key a value. -/
def define (draft : Draft) (key : Key) (value : Located Value) : Except Cause Draft := do
  let entries ← draft.entries.define .line (some draft.path) .header key value
  let span := match draft.span, value.span with
    | some first, some last => some (first.join last)
    | span, _ => span
  return { draft with entries, span }

/-- A header of a table. A table that so far was only implied keeps its entries and moves to the
end. -/
def openTable (draft : Draft) (key : Key) (span : Span) : Except Cause Draft := do
  let root ← draft.close
  let takeOut (_ : Origin) (entries : Entries) : Except Cause (Entries × Entries) :=
    match entries.get? key.last.value with
    | none => .ok ([], entries)
    | some ⟨.table .implied inner, _⟩ => .ok (inner, entries.erase key.last.value)
    | some _ => .error (repeated key)
  let (entries, root) ← Entries.at .header takeOut [] key.path .header root
  return { root, header := some key, element := false, entries, span }

/-- A header of an element of an array of tables. -/
def openElement (draft : Draft) (key : Key) (span : Span) : Except Cause Draft := do
  let root ← draft.close
  let prepare (_ : Origin) (entries : Entries) : Except Cause (Unit × Entries) :=
    match entries.get? key.last.value with
    | none => .ok ((), entries ++ [(key.last, { value := .tables [] })])
    | some ⟨.tables _, _⟩ => .ok ((), entries)
    | some _ => .error (repeated key)
  let (_, root) ← Entries.at .header prepare [] key.path .header root
  return { root, header := some key, element := true, entries := [], span }

end Draft

end DatagramEcho.Toml

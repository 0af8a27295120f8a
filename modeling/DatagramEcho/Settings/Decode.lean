import DatagramEcho.Settings
import DatagramEcho.Settings.Problem

/-!
# Settings from a document

Each section of a configuration file is described by a list of fields, in the order of their
declaration. A section given as a table is read key by key, in the order of the document, and keys
that no field has are passed over. A section given as an array is read by position. Either way every
field starts from its own default, and the first problem ends the reading. A section that is left
out is the default section.

* `readText`, `readCount` and `readChoice` read the value of one field.
* `overlay` reads keys, `positional` positions.
* `Settings.ofEntries` reads a whole document.
-/

namespace DatagramEcho.Settings

/-- Reads a value, or says why it does not fit. -/
abbrev Read (α : Type) := Toml.Located Toml.Value → Except Misfit α

/-- Read a value by its content alone. What does not fit has the span of the value, unless it has a
narrower one. -/
def Read.make {α : Type} (read : Toml.Value → Except Misfit α) : Read α := fun value =>
  (read value.value).mapError (·.within value.span)

/-- A problem with the value that is being read. -/
def misfit {α : Type} (problem : Problem) : Except Misfit α :=
  .error { problem }

/-- A text. -/
def readText : Read String := .make fun
  | .string text => .ok text
  | value => misfit (.wrongType value "a string")

/-- A number that is not negative. `type` names the kind of number in complaints. -/
def readCount (type : String) : Read Nat := .make fun
  | .integer value => if value < 0 then misfit (.negative value type) else .ok value.toNat
  | value => misfit (.wrongType value type)

/-- The elements of an array of tables as values, from the first to the last. -/
def elementValues (elements : List (Toml.Located Toml.Entries)) : List (Toml.Located Toml.Value) :=
  elements.reverse.map fun element => ⟨.table .header element.value, element.span⟩

/-- A list of texts. -/
def readTexts : Read (List String) := .make fun
  | .array items => items.mapM readText
  | .tables elements => (elementValues elements).mapM readText
  | value => misfit (.wrongType value "a sequence")

/-- Whether the value beside the name of a choice is empty, as it has to be. -/
def checkChoiceContent : Read Unit := .make fun value =>
  match value with
  | .table _ [] | .array [] | .tables [] => .ok ()
  | .table _ _ | .array _ | .tables _ => misfit (.choiceWithContent value)
  | value => misfit (.choiceWithValue value)

/-- The choice of a name. -/
def readName {α : Type} [Choice α] (name : String) : Except Misfit α :=
  match Choice.ofName? name with
  | some choice => .ok choice
  | none => misfit (.unknownChoice name (Choice.names α))

/-- A choice, as a name or as a table whose only key is the name. -/
def readChoice {α : Type} [Choice α] : Read α := .make fun
  | .string name => readName name
  | .table _ [] => misfit .emptyChoice
  | .table _ [(name, content)] => do
    let choice ← (readName name.value).mapError (·.within name.span)
    checkChoiceContent content
    return choice
  | .table _ _ => misfit .severalChoices
  | _ => misfit .noChoice

/-- A field of a section. -/
structure Field (σ : Type) where
  /-- The key of the field. -/
  key : String
  /-- Set the field to a value. -/
  set : σ → Read σ

/-- A field whose values `read` reads and `store` stores. -/
def Field.make {σ α : Type} (key : String) (read : Read α) (store : σ → α → σ) : Field σ where
  key := key
  set state value := (read value).map (store state)

/-- Set the fields whose keys are among `entries`, starting from `state`. -/
def overlay {σ : Type} (fields : List (Field σ)) (state : σ) (entries : Toml.Entries) :
    Except Misfit σ :=
  entries.foldlM (fun state (key, value) =>
    match fields.find? (·.key == key.value) with
    | some field => (field.set state value).mapError (·.under key)
    | none => .ok state) state

/-- Set the fields in their order to `values`, starting from `state`. Fields beyond the values stay
as they are, and values beyond the fields are passed over. -/
def positional {σ : Type} (fields : List (Field σ)) (state : σ)
    (values : List (Toml.Located Toml.Value)) : Except Misfit σ :=
  (fields.zip values).foldlM (fun state (field, value) => field.set state value) state

/-- Read a section. `wanted` names it in complaints. A moment counts as a table without known
keys. -/
def readSection {σ : Type} (wanted : String) (fields : List (Field σ)) (default : σ) : Read σ :=
  .make fun
  | .table _ entries => overlay fields default entries
  | .array values => positional fields default values
  | .tables elements => positional fields default (elementValues elements)
  | .moment => .ok default
  | value => misfit (.wrongType value wanted)

/-- The kind of number that a buffer size is. -/
def sizeType : String := "usize"

/-- The kind of number that a time in milliseconds is. -/
def timeType : String := "u64"

/-- The fields of the section on the server. -/
def Server.fields : List (Field Server) :=
  [.make "listen" readText fun server listen => { server with listen },
    .make "buffer_size" (readCount sizeType) fun server bufferSize => { server with bufferSize },
    .make "empty_policy" readChoice fun server emptyPolicy => { server with emptyPolicy },
    .make "transform" readChoice fun server transform => { server with transform },
    .make "runtime" readChoice fun server eventLoop => { server with eventLoop }]

/-- The fields of the section on the client. -/
def Client.fields : List (Field Client) :=
  [.make "target" readText fun client target => { client with target },
    .make "bind" readText fun client bind => { client with bind },
    .make "buffer_size" (readCount sizeType) fun client bufferSize => { client with bufferSize },
    .make "timeout_ms" (readCount timeType) fun client timeoutMs => { client with timeoutMs },
    .make "silence_ms" (readCount timeType) fun client silenceMs => { client with silenceMs },
    .make "empty_policy" readChoice fun client emptyPolicy => { client with emptyPolicy },
    .make "transform" readChoice fun client transform => { client with transform },
    .make "payloads" readTexts fun client payloads => { client with payloads }]

/-- The fields of the section on the log. -/
def Logging.fields : List (Field Logging) :=
  [.make "level" readText fun logging level => { logging with level }]

/-- A section on the server in which nothing is set: each field has the default of its own. -/
def Server.unset : Server where
  listen := defaultListen
  bufferSize := defaultBufferSize
  emptyPolicy := default
  transform := default
  eventLoop := default

/-- A section on the client in which nothing is set. -/
def Client.unset : Client where
  target := defaultTarget
  bind := defaultBind
  bufferSize := defaultBufferSize
  timeoutMs := defaultTimeoutMs
  silenceMs := defaultSilenceMs
  emptyPolicy := default
  transform := default
  payloads := default

/-- A section on the log in which nothing is set. -/
def Logging.unset : Logging where
  level := defaultLevel

/-- The section on the server. -/
def readServer : Read Server :=
  readSection "struct ServerSection" Server.fields .unset

/-- The section on the client. -/
def readClient : Read Client :=
  readSection "struct ClientSection" Client.fields .unset

/-- The section on the log. -/
def readLogging : Read Logging :=
  readSection "struct LoggingConfig" Logging.fields .unset

/-- The sections of a document. -/
def sections : List (Field Settings) :=
  [.make "server" readServer fun settings server => { settings with server },
    .make "client" readClient fun settings client => { settings with client },
    .make "logging" readLogging fun settings logging => { settings with logging }]

/-- The settings in a document. -/
def ofEntries (entries : Toml.Entries) : Except Misfit Settings :=
  overlay sections {} entries

end DatagramEcho.Settings

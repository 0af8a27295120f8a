import DatagramEcho.Configuration
import DatagramEcho.Proofs.Settings.Fields

/-!
# What a settings file states

A settings file need not state every option. What it states is the same kind of thing as what a
command line gives: some of the options of a server, some of those of a client, and perhaps a log
level. Either of them can be laid over options that are complete.

* `ServerArguments.over` and `ClientArguments.over`: options laid over complete ones.
* `Settings.Stated.ofEntries`: the options that a document states.
* `Server.governs` and `Client.governs`: what each field of a section reads and sets.
* `Settings.eq_settings_of_ofEntries`: the settings in a document are what it states, laid over
  the defaults.
-/

namespace DatagramEcho

open CommandLine

/-- Options of a server laid over complete ones: each as it is given, and as it was if it is not. -/
def CommandLine.ServerArguments.over (above : ServerArguments) (below : Settings.Server) :
    Settings.Server where
  listen := above.listen.getD below.listen
  bufferSize := above.bufferSize.getD below.bufferSize
  emptyPolicy := above.emptyPolicy.getD below.emptyPolicy
  transform := above.transform.getD below.transform
  eventLoop := above.eventLoop.getD below.eventLoop

/-- Options of a client laid over complete ones. Payloads replace all payloads below them. -/
def CommandLine.ClientArguments.over (above : ClientArguments) (below : Settings.Client) :
    Settings.Client where
  target := above.target.getD below.target
  bind := above.bind.getD below.bind
  bufferSize := above.bufferSize.getD below.bufferSize
  timeoutMs := above.timeoutMs.getD below.timeoutMs
  silenceMs := above.silenceMs.getD below.silenceMs
  emptyPolicy := above.emptyPolicy.getD below.emptyPolicy
  transform := above.transform.getD below.transform
  payloads := if above.payloads.isEmpty then below.payloads else above.payloads

namespace Settings

/-- The options that a settings file states. -/
structure Stated where
  /-- Those of a server. -/
  server : ServerArguments := {}
  /-- Those of a client. -/
  client : ClientArguments := {}
  /-- The log level. -/
  level : Option String := none
  deriving Repr, DecidableEq

/-- What a section states about the field of a key at a position. Without the section it states
nothing. -/
def states? {α : Type} (position : ℕ) (key : String) (read : Read α)
    (given : Option (Toml.Located Toml.Value)) : Option α := do
  let value ← sectionValue? position key (← given).value
  (read value).toOption

namespace Stated

/-- What the section on the server states. -/
def serverIn (given : Option (Toml.Located Toml.Value)) : ServerArguments where
  listen := states? 0 "listen" readText given
  bufferSize := states? 1 "buffer_size" (readCount sizeType) given
  emptyPolicy := states? 2 "empty_policy" readChoice given
  transform := states? 3 "transform" readChoice given
  eventLoop := states? 4 "runtime" readChoice given

/-- What the section on the client states. -/
def clientIn (given : Option (Toml.Located Toml.Value)) : ClientArguments where
  target := states? 0 "target" readText given
  bind := states? 1 "bind" readText given
  bufferSize := states? 2 "buffer_size" (readCount sizeType) given
  timeoutMs := states? 3 "timeout_ms" (readCount timeType) given
  silenceMs := states? 4 "silence_ms" (readCount timeType) given
  emptyPolicy := states? 5 "empty_policy" readChoice given
  transform := states? 6 "transform" readChoice given
  payloads := (states? 7 "payloads" readTexts given).getD []

/-- What a document states. -/
def ofEntries (entries : Toml.Entries) : Stated where
  server := serverIn (Toml.Entries.last? entries "server")
  client := clientIn (Toml.Entries.last? entries "client")
  level := states? 0 "level" readText (Toml.Entries.last? entries "logging")

/-- The settings in which everything that is not stated has its default. -/
def settings (stated : Stated) : Settings where
  server := stated.server.over {}
  client := stated.client.over {}
  logging := { level := stated.level.getD ({} : Logging).level }

end Stated

variable {σ α : Type} {fields : List (Field σ)} {position : ℕ} {key wanted : String}
  {read : Read α} {part : σ → α} {default result : σ} {given : Option (Toml.Located Toml.Value)}

/-- A part of a section that was read is what the section states about it, or the default. -/
theorem Governs.eq_getD_states? (hgoverns : Governs fields position key read part)
    (htaken : Taken (readSection wanted fields default) default given result) :
    part result = (states? position key read given).getD (part default) := by
  cases given with
  | none =>
    have hresult : result = default := htaken
    rw [hresult]
    rfl
  | some given =>
    have hread : readSection wanted fields default given = .ok result := htaken
    rw [(hgoverns.taken_readSection hread).eq_getD]
    rfl

section Sections

/-! A section that is left out is the same as one in which nothing is set. -/

theorem Server.unset_eq : Server.unset = {} := rfl

theorem Client.unset_eq : Client.unset = {} := rfl

theorem Logging.unset_eq : Logging.unset = {} := rfl

/-- What the fields of the section on the server read and set. -/
theorem Server.governs :
    Governs Server.fields 0 "listen" readText (·.listen) ∧
      Governs Server.fields 1 "buffer_size" (readCount sizeType) (·.bufferSize) ∧
      Governs Server.fields 2 "empty_policy" readChoice (·.emptyPolicy) ∧
      Governs Server.fields 3 "transform" readChoice (·.transform) ∧
      Governs Server.fields 4 "runtime" readChoice (·.eventLoop) := by
  refine ⟨?_, ?_, ?_, ?_, ?_⟩ <;>
    exact .make (by decide) rfl (fun _ _ => rfl) (by simp [Server.fields, Field.keeps_make])

/-- What the fields of the section on the client read and set. -/
theorem Client.governs :
    Governs Client.fields 0 "target" readText (·.target) ∧
      Governs Client.fields 1 "bind" readText (·.bind) ∧
      Governs Client.fields 2 "buffer_size" (readCount sizeType) (·.bufferSize) ∧
      Governs Client.fields 3 "timeout_ms" (readCount timeType) (·.timeoutMs) ∧
      Governs Client.fields 4 "silence_ms" (readCount timeType) (·.silenceMs) ∧
      Governs Client.fields 5 "empty_policy" readChoice (·.emptyPolicy) ∧
      Governs Client.fields 6 "transform" readChoice (·.transform) ∧
      Governs Client.fields 7 "payloads" readTexts (·.payloads) := by
  refine ⟨?_, ?_, ?_, ?_, ?_, ?_, ?_, ?_⟩ <;>
    exact .make (by decide) rfl (fun _ _ => rfl) (by simp [Client.fields, Field.keeps_make])

/-- What the field of the section on the log reads and sets. -/
theorem Logging.governs : Governs Logging.fields 0 "level" readText (·.level) :=
  .make (by decide) rfl (fun _ _ => rfl) (by simp [Logging.fields])

/-- What the sections of a document read and set. -/
theorem governs_sections :
    Governs sections 0 "server" readServer (·.server) ∧
      Governs sections 1 "client" readClient (·.client) ∧
      Governs sections 2 "logging" readLogging (·.logging) := by
  refine ⟨?_, ?_, ?_⟩ <;>
    exact .make (by decide) rfl (fun _ _ => rfl) (by simp [sections, Field.keeps_make])

variable {server : Server} {client : Client} {logging : Logging}

/-- The section on the server is what it states, laid over the defaults. -/
theorem server_eq_over (htaken : Taken readServer {} given server) :
    server = (Stated.serverIn given).over {} := by
  rw [readServer, Server.unset_eq] at htaken
  obtain ⟨hlisten, hbufferSize, hemptyPolicy, htransform, heventLoop⟩ := Server.governs
  rw [ServerArguments.over, Stated.serverIn, ← hlisten.eq_getD_states? htaken,
    ← hbufferSize.eq_getD_states? htaken, ← hemptyPolicy.eq_getD_states? htaken,
    ← htransform.eq_getD_states? htaken, ← heventLoop.eq_getD_states? htaken]

/-- The section on the client is what it states, laid over the defaults. -/
theorem client_eq_over (htaken : Taken readClient {} given client) :
    client = (Stated.clientIn given).over {} := by
  rw [readClient, Client.unset_eq] at htaken
  obtain ⟨htarget, hbind, hbufferSize, htimeoutMs, hsilenceMs, hemptyPolicy, htransform,
    hpayloads⟩ := Client.governs
  -- stating no payloads at all is the same as not stating them
  have hnone : ∀ payloads : List String,
      (if payloads.isEmpty then ({} : Client).payloads else payloads) = payloads := by
    intro payloads
    cases payloads <;> rfl
  rw [ClientArguments.over, Stated.clientIn, hnone, ← htarget.eq_getD_states? htaken,
    ← hbind.eq_getD_states? htaken, ← hbufferSize.eq_getD_states? htaken,
    ← htimeoutMs.eq_getD_states? htaken, ← hsilenceMs.eq_getD_states? htaken,
    ← hemptyPolicy.eq_getD_states? htaken, ← htransform.eq_getD_states? htaken]
  exact congrArg (Client.mk _ _ _ _ _ _ _) (hpayloads.eq_getD_states? htaken)

/-- The section on the log is what it states, laid over the default. -/
theorem level_eq_getD (htaken : Taken readLogging {} given logging) :
    logging.level = (states? 0 "level" readText given).getD ({} : Logging).level := by
  rw [readLogging, Logging.unset_eq] at htaken
  exact Logging.governs.eq_getD_states? htaken

end Sections

/-- The settings in a document are what it states, laid over the defaults. -/
theorem eq_settings_of_ofEntries {entries : Toml.Entries} {settings : Settings}
    (hentries : ofEntries entries = .ok settings) :
    settings = (Stated.ofEntries entries).settings := by
  obtain ⟨hserver, hclient, hlogging⟩ := governs_sections
  rw [Stated.settings, Stated.ofEntries, ← server_eq_over (hserver.taken_overlay hentries),
    ← client_eq_over (hclient.taken_overlay hentries),
    ← level_eq_getD (hlogging.taken_overlay hentries)]

end Settings

end DatagramEcho

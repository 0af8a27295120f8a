import DatagramEcho.Proofs.Client.Passage
import DatagramEcho.Proofs.Settings.Stated

/-!
# The outcome of a configuration

An option is what the command line gives, or else what the settings file states, or else its
default. Only the options of the side that is to run are looked at, and only as they come out in the
end. This module says what a configuration comes to, problem by problem and field by field.

* `Arguments.options`: the options of the side that is to run, as they come out.
* `Options.problems`: everything that is wrong with them, in the order in which it is reported.
* `Options.Describes`: a configuration has every option as it came out.
* `Arguments.AgreeBelow`: two files state the same about the options that a command line leaves
  open.
* `load_resolves`: the file is read first, then the first problem is reported, and without one the
  configuration is as the options describe it.
-/

namespace DatagramEcho

open CommandLine

/-! ## Options -/

/-- The capacity of the receive buffer of the side that is to run. -/
def Mode.bufferSize : Mode → ℕ
  | server config => config.bufferSize
  | client config => config.bufferSize

/-- The options of the side that is to run. -/
inductive Options where
  /-- Those of a server. -/
  | server (options : Settings.Server)
  /-- Those of a client. -/
  | client (options : Settings.Client)

namespace Options

/-- The texts that have to be addresses, in the order in which they are checked. -/
@[simp]
def addresses : Options → List String
  | server options => [options.listen]
  | client options => [options.target, options.bind]

/-- The capacity of the receive buffer. -/
@[simp]
def bufferSize : Options → ℕ
  | server options => options.bufferSize
  | client options => options.bufferSize

/-- Everything that is wrong with options, in the order in which it is reported: the texts that are
no addresses, then a buffer size out of range. -/
def problems (options : Options) : List Configuration.Problem :=
  ((options.addresses.filter fun text => (SocketAddress.ofText? text).isNone).map
    .invalidAddress) ++
      if ValidBufferSize options.bufferSize then [] else [.invalidBufferSize options.bufferSize]

/-- The side that is to run has every option as it came out, with addresses in place of their texts
and time spans in place of milliseconds. A timeout of zero milliseconds stands for no timeout. -/
inductive Describes : Options → Mode → Prop
  /-- A server. -/
  | server {options : Settings.Server} {config : Server.Config}
    (listen : SocketAddress.ofText? options.listen = some config.listen)
    (bufferSize : config.bufferSize = options.bufferSize)
    (contract : config.contract = ⟨options.emptyPolicy, options.transform⟩)
    (eventLoop : config.eventLoop = options.eventLoop) :
    Describes (.server options) (.server config)
  /-- A client. -/
  | client {options : Settings.Client} {config : Client.Config}
    (target : SocketAddress.ofText? options.target = some config.target)
    (bind : SocketAddress.ofText? options.bind = some config.bind)
    (bufferSize : config.bufferSize = options.bufferSize)
    (timeout : config.timeout =
      if options.timeoutMs = 0 then none else some (.ofMilliseconds options.timeoutMs))
    (silenceWindow : config.silenceWindow = .ofMilliseconds options.silenceMs)
    (contract : config.contract = ⟨options.emptyPolicy, options.transform⟩)
    (payloads : config.payloads = options.payloads.map fun payload => payload.toUTF8.toList) :
    Describes (.client options) (.client config)

/-- Options describe one configuration only. -/
theorem Describes.unique {options : Options} {mode mode' : Mode} (h : options.Describes mode)
    (h' : options.Describes mode') : mode = mode' := by
  cases h with
  | @server options config listen bufferSize contract eventLoop =>
    cases h' with
    | @server _ config' listen' bufferSize' contract' eventLoop' =>
      -- one text spells one address only
      have haddress := Option.some.inj (listen.symm.trans listen')
      cases config
      cases config'
      simp_all
  | @client options config target bind bufferSize timeout silenceWindow contract payloads =>
    cases h' with
    | @client _ config' target' bind' bufferSize' timeout' silenceWindow' contract' payloads' =>
      have htarget := Option.some.inj (target.symm.trans target')
      have hbind := Option.some.inj (bind.symm.trans bind')
      cases config
      cases config'
      simp_all

/-- An outcome that options decide: the first of their problems, or what they describe if they have
none. -/
structure Decides (options : Options) (outcome : Except Configuration.Problem Mode) : Prop where
  /-- The first problem is reported, and no other one. -/
  error : ∀ problem, outcome = .error problem ↔ options.problems.head? = some problem
  /-- Without a problem everything is as the options describe it. -/
  ok : ∀ mode, outcome = .ok mode ↔ options.problems = [] ∧ options.Describes mode

variable {options : Options} {mode : Mode} {problem : Configuration.Problem}

/-- A report of the first problem is decided. -/
theorem decides_error (hfirst : options.problems.head? = some problem) :
    options.Decides (.error problem) where
  error other := by rw [hfirst, Except.error.injEq, Option.some.injEq]
  ok mode := by
    constructor
    · intro h
      cases h
    · rintro ⟨hnone, -⟩
      rw [hnone] at hfirst
      cases hfirst

/-- What the options describe is decided, if they have no problem. -/
theorem decides_ok (hnone : options.problems = []) (hdescribes : options.Describes mode) :
    options.Decides (.ok mode) where
  error problem := by simp [hnone]
  ok other := by
    constructor
    · rintro h
      cases h
      exact ⟨hnone, hdescribes⟩
    · rintro ⟨-, hother⟩
      rw [hdescribes.unique hother]

/-- A configuration has the buffer size that the options say. -/
theorem Describes.bufferSize_eq (h : options.Describes mode) :
    mode.bufferSize = options.bufferSize := by
  cases h with
  | server _ bufferSize => exact bufferSize
  | client _ _ bufferSize => exact bufferSize

/-- Options without a problem have a buffer size in range. -/
theorem validBufferSize (hnone : options.problems = []) : ValidBufferSize options.bufferSize := by
  by_contra hsize
  rw [problems, if_neg hsize] at hnone
  exact absurd (List.append_eq_nil_iff.mp hnone).2 (List.cons_ne_nil _ _)

/-- Options decide one outcome only. -/
theorem Decides.unique {outcome outcome' : Except Configuration.Problem Mode}
    (h : options.Decides outcome) (h' : options.Decides outcome') : outcome = outcome' := by
  cases outcome with
  | error problem => exact ((h'.error problem).mpr ((h.error problem).mp rfl)).symm
  | ok mode => exact ((h'.ok mode).mpr ((h.ok mode).mp rfl)).symm

end Options

namespace CommandLine

open DatagramEcho.Configuration

/-- The options of the side that is to run: as the command line gives them, or else as the file
states them, or else with their defaults. -/
def Arguments.options (arguments : Arguments) (stated : Settings.Stated) : Options :=
  match arguments.side with
  | .server given => .server (given.over (stated.server.over {}))
  | .client given => .client (given.over (stated.client.over {}))

/-- The options of a server decide what is resolved from them. -/
theorem ServerArguments.decides_resolve (given : ServerArguments) (below : Settings.Server) :
    (Options.server (given.over below)).Decides (Mode.server <$> given.resolve below) := by
  unfold ServerArguments.resolve readAddress checkBufferSize
  -- the address is looked at first, and then the size
  cases hlisten : SocketAddress.ofText? (given.listen.getD below.listen) with
  | none =>
    refine Options.decides_error ?_
    simp [Options.problems, ServerArguments.over, hlisten]
  | some listen =>
    by_cases hsize : ValidBufferSize (given.bufferSize.getD below.bufferSize)
    · rw [if_pos hsize]
      refine Options.decides_ok ?_ (.server hlisten rfl rfl rfl)
      simp [Options.problems, ServerArguments.over, hlisten, hsize]
    · rw [if_neg hsize]
      refine Options.decides_error ?_
      simp [Options.problems, ServerArguments.over, hlisten, hsize]

/-- The options of a client decide what is resolved from them. -/
theorem ClientArguments.decides_resolve (given : ClientArguments) (below : Settings.Client) :
    (Options.client (given.over below)).Decides (Mode.client <$> given.resolve below) := by
  unfold ClientArguments.resolve readAddress checkBufferSize
  -- the addresses are looked at first, and then the size
  cases htarget : SocketAddress.ofText? (given.target.getD below.target) with
  | none =>
    refine Options.decides_error ?_
    simp [Options.problems, ClientArguments.over, htarget]
  | some target =>
    cases hbind : SocketAddress.ofText? (given.bind.getD below.bind) with
    | none =>
      refine Options.decides_error ?_
      simp [Options.problems, ClientArguments.over, htarget, hbind]
    | some bind =>
      by_cases hsize : ValidBufferSize (given.bufferSize.getD below.bufferSize)
      · rw [if_pos hsize]
        refine Options.decides_ok ?_ (.client htarget hbind rfl rfl rfl rfl rfl)
        simp [Options.problems, ClientArguments.over, htarget, hbind,
          hsize]
      · rw [if_neg hsize]
        refine Options.decides_error ?_
        simp [Options.problems, ClientArguments.over, htarget, hbind,
          hsize]

/-- The side that is to run is resolved alone; the log level is added afterwards. -/
theorem Arguments.map_mode_resolve (arguments : Arguments) (settings : Settings) :
    (arguments.resolve settings).map (·.mode) =
      match arguments.side with
      | .server given => Mode.server <$> given.resolve settings.server
      | .client given => Mode.client <$> given.resolve settings.client := by
  unfold Arguments.resolve
  cases arguments.side with
  | server given =>
    dsimp only
    cases given.resolve settings.server <;> rfl
  | client given =>
    dsimp only
    cases given.resolve settings.client <;> rfl

/-- The options of the side that is to run decide what is resolved from them. -/
theorem Arguments.decides_resolve (arguments : Arguments) (stated : Settings.Stated) :
    (arguments.options stated).Decides ((arguments.resolve stated.settings).map (·.mode)) := by
  rw [map_mode_resolve]
  unfold Arguments.options
  cases arguments.side with
  | server given => exact given.decides_resolve (stated.server.over {})
  | client given => exact given.decides_resolve (stated.client.over {})

/-! ## What is not looked at -/

/-- Two files state the same about those options of a server that the command line leaves open. -/
structure ServerArguments.AgreeBelow (given first second : ServerArguments) : Prop where
  /-- The address to receive on. -/
  listen : given.listen = none → first.listen = second.listen
  /-- The capacity of the receive buffer. -/
  bufferSize : given.bufferSize = none → first.bufferSize = second.bufferSize
  /-- The treatment of empty datagrams. -/
  emptyPolicy : given.emptyPolicy = none → first.emptyPolicy = second.emptyPolicy
  /-- The transform applied to replies. -/
  transform : given.transform = none → first.transform = second.transform
  /-- The event loop. -/
  eventLoop : given.eventLoop = none → first.eventLoop = second.eventLoop

/-- Two files state the same about those options of a client that the command line leaves open. -/
structure ClientArguments.AgreeBelow (given first second : ClientArguments) : Prop where
  /-- The address to send to. -/
  target : given.target = none → first.target = second.target
  /-- The address of the client's own socket. -/
  bind : given.bind = none → first.bind = second.bind
  /-- The capacity of the receive buffer. -/
  bufferSize : given.bufferSize = none → first.bufferSize = second.bufferSize
  /-- How long to wait for a reply. -/
  timeoutMs : given.timeoutMs = none → first.timeoutMs = second.timeoutMs
  /-- How long silence has to last. -/
  silenceMs : given.silenceMs = none → first.silenceMs = second.silenceMs
  /-- The treatment of empty datagrams that the server is expected to apply. -/
  emptyPolicy : given.emptyPolicy = none → first.emptyPolicy = second.emptyPolicy
  /-- The transform that the server is expected to apply. -/
  transform : given.transform = none → first.transform = second.transform
  /-- The payloads to send. -/
  payloads : given.payloads = [] → first.payloads = second.payloads

/-- Two files state the same about what a command line leaves open for the side that is to run. They
may differ in everything else, the whole section on the other side included. -/
def Arguments.AgreeBelow (arguments : Arguments) (first second : Settings.Stated) : Prop :=
  match arguments.side with
  | .server given => given.AgreeBelow first.server second.server
  | .client given => given.AgreeBelow first.client second.client

/-- What lies below an option does not matter if the option is given. -/
theorem getD_getD_congr {α : Type} {given first second : Option α} {default : α}
    (hbelow : given = none → first = second) :
    given.getD (first.getD default) = given.getD (second.getD default) := by
  cases given with
  | some value => rfl
  | none => rw [hbelow rfl]

/-- Files that agree on what is open come out as the same options. -/
theorem Arguments.options_congr {arguments : Arguments} {first second : Settings.Stated}
    (hagree : arguments.AgreeBelow first second) :
    arguments.options first = arguments.options second := by
  unfold Arguments.AgreeBelow at hagree
  unfold Arguments.options
  cases hside : arguments.side with
  | server given =>
    rw [hside] at hagree
    simp only [ServerArguments.over, getD_getD_congr hagree.listen,
      getD_getD_congr hagree.bufferSize, getD_getD_congr hagree.emptyPolicy,
      getD_getD_congr hagree.transform, getD_getD_congr hagree.eventLoop]
  | client given =>
    rw [hside] at hagree
    simp only [ClientArguments.over, getD_getD_congr hagree.target, getD_getD_congr hagree.bind,
      getD_getD_congr hagree.bufferSize, getD_getD_congr hagree.timeoutMs,
      getD_getD_congr hagree.silenceMs, getD_getD_congr hagree.emptyPolicy,
      getD_getD_congr hagree.transform]
    cases hgiven : given.payloads with
    | nil => rw [hagree.payloads hgiven]
    | cons payload payloads => rfl

end CommandLine

namespace Configuration

variable {read : String → Except Fault String} {arguments : Arguments}

/-- What the settings file behind a command line states, as far as there is one that holds a
document. -/
def stated (read : String → Except Fault String) (arguments : Arguments) : Settings.Stated :=
  let document? : Option Toml.Entries := do
    let path ← arguments.config
    let text ← (read path).toOption
    (Toml.document text).toOption
  document?.elim {} .ofEntries

/-- The settings file behind a command line, if there is one, can be read and holds settings. -/
def Legible (read : String → Except Fault String) (arguments : Arguments) : Prop :=
  ∀ path, arguments.config = some path →
    ∃ text settings, read path = .ok text ∧ Settings.ofText text = .ok settings

/-- A legible file is resolved as what it states, laid over the defaults. -/
theorem load_eq_resolve (hlegible : Legible read arguments) :
    load read arguments = arguments.resolve (stated read arguments).settings := by
  unfold load stated
  cases hconfig : arguments.config with
  | none => rfl
  | some path =>
    obtain ⟨text, settings, hread, htext⟩ := hlegible path hconfig
    -- the settings are what the document in the file states
    have hdocument : ∃ entries, Toml.document text = .ok entries ∧
        settings = (Settings.Stated.ofEntries entries).settings := by
      unfold Settings.ofText at htext
      cases hentries : Toml.document text with
      | error mistake => rw [hentries] at htext; cases htext
      | ok entries =>
        rw [hentries] at htext
        exact ⟨entries, rfl, Settings.eq_settings_of_ofEntries (eq_ok_of_mapError_eq_ok htext)⟩
    obtain ⟨entries, hentries, hsettings⟩ := hdocument
    have hreadSettings : readSettings path (read path) = .ok settings := by
      simp only [readSettings, hread, htext]
    simp only [hreadSettings]
    rw [hsettings]
    simp only [Option.bind_eq_bind, Option.bind_some, hread, hentries, Except.toOption]
    rfl

/-- A file that cannot be read, or holds no settings, is reported before anything else is looked
at. -/
theorem load_of_config_eq_some (read : String → Except Fault String) {path : String}
    (hconfig : arguments.config = some path) :
    (∀ fault, read path = .error fault → load read arguments = .error (.unreadable path fault)) ∧
      ∀ text defect, read path = .ok text → Settings.ofText text = .error defect →
        load read arguments = .error (.defective path defect) := by
  unfold load
  rw [hconfig]
  constructor
  · intro fault hread
    simp only [readSettings, hread]
    rfl
  · intro text defect hread htext
    simp only [readSettings, hread, htext]
    rfl

/-- The options of the side that is to run decide the outcome, once the file is read. -/
theorem decides_load (hlegible : Legible read arguments) :
    (arguments.options (stated read arguments)).Decides
      ((load read arguments).map (·.mode)) := by
  rw [load_eq_resolve hlegible]
  exact arguments.decides_resolve (stated read arguments)

/-- A configuration that loads was put together from a legible file. -/
theorem legible_of_load {configuration : Configuration}
    (hload : load read arguments = .ok configuration) : Legible read arguments := by
  intro path hconfig
  -- otherwise one of the two problems with files would have been reported
  obtain ⟨hunreadable, hdefective⟩ := load_of_config_eq_some read hconfig
  cases hread : read path with
  | error fault => rw [hunreadable fault hread] at hload; cases hload
  | ok text =>
    cases htext : Settings.ofText text with
    | error defect => rw [hdefective text defect hread htext] at hload; cases hload
    | ok settings => exact ⟨text, settings, rfl, htext⟩

/-- A configuration that loads is as the options describe it, and they have no problem. -/
theorem describes_of_load {mode : Mode} {level : String}
    (hload : load read arguments = .ok ⟨mode, level⟩) :
    (arguments.options (stated read arguments)).problems = [] ∧
      (arguments.options (stated read arguments)).Describes mode := by
  have hdecides := decides_load (legible_of_load hload)
  rw [hload] at hdecides
  exact (hdecides.ok mode).mp rfl

/-- A configuration that loads has a valid buffer size. -/
theorem validBufferSize_of_load {mode : Mode} {level : String}
    (hload : load read arguments = .ok ⟨mode, level⟩) : ValidBufferSize mode.bufferSize := by
  obtain ⟨hnone, hdescribes⟩ := describes_of_load hload
  rw [hdescribes.bufferSize_eq]
  exact Options.validBufferSize hnone

end Configuration

/-! ## What has passed -/

/-- A server that is to be bound is refused for its buffer size exactly if that is out of range. -/
theorem Server.bind_eq_invalidBufferSize_iff {host : Host} {config : Server.Config} {size : ℕ} :
    Server.bind host config = .error (.invalidBufferSize size) ↔
      ¬ ValidBufferSize config.bufferSize ∧ size = config.bufferSize := by
  unfold Server.bind
  split_ifs with hsize
  · simp only [hsize, not_true, false_and, iff_false]
    cases host.bind config.listen <;> simp
  · simp [hsize, eq_comm]

/-- A client that is to be connected is refused for its buffer size exactly if that is out of
range. -/
theorem Client.connect_eq_invalidBufferSize_iff {host : Host} {config : Client.Config} {size : ℕ} :
    Client.connect host config = .error (.invalidBufferSize size) ↔
      ¬ ValidBufferSize config.bufferSize ∧ size = config.bufferSize := by
  unfold Client.connect
  split_ifs with hsize
  · simp only [hsize, not_true, false_and, iff_false]
    cases host.bind config.bind with
    | error fault => simp
    | ok address => cases hconnect : host.connect address config.target <;> simp [hconnect]
  · simp [hsize, eq_comm]

namespace Configuration

/-- A settings file that cannot be read, or holds no settings, is reported before anything else.
After that the options of the side that is to run decide: each is as the command line gives it, or
else as the file states it, or else it has its default. The first of their problems is reported, and
without one everything is as they describe it. Files that agree on what the command line leaves open
for that side lead to the same outcome. What was configured is not refused later: neither for its
buffer size when its socket is made, nor for a wait of no time when it runs. -/
theorem load_resolves (read : String → Except Fault String) (arguments : Arguments) :
    let outcome := load read arguments
    let options := arguments.options (stated read arguments)
    (∀ path, arguments.config = some path →
      (∀ fault, read path = .error fault → outcome = .error (.unreadable path fault)) ∧
      ∀ text defect, read path = .ok text → Settings.ofText text = .error defect →
        outcome = .error (.defective path defect)) ∧
    (Legible read arguments →
      options.Decides (outcome.map (·.mode)) ∧
      ∀ read', Legible read' arguments →
        arguments.AgreeBelow (stated read arguments) (stated read' arguments) →
        (load read' arguments).map (·.mode) = outcome.map (·.mode)) ∧
    (∀ config level, outcome = .ok ⟨.server config, level⟩ → ∀ host size,
      Server.bind host config ≠ .error (.invalidBufferSize size)) ∧
    (∀ config level, outcome = .ok ⟨.client config, level⟩ →
      (∀ host size, Client.connect host config ≠ .error (.invalidBufferSize size)) ∧
      ∀ script link index direction, (Client.run config script link).result ≠
        .error (.failure (.transport index direction .zeroTimeout))) := by
  intro outcome options
  refine ⟨fun path hconfig => load_of_config_eq_some read hconfig, fun hlegible => ⟨?_, ?_⟩, ?_, ?_⟩
  · exact decides_load hlegible
  · intro read' hlegible' hagree
    -- the outcome is decided by the options alone, and they are the same
    have hdecides := decides_load hlegible
    have hdecides' := decides_load hlegible'
    rw [← Arguments.options_congr hagree] at hdecides'
    exact hdecides'.unique hdecides
  -- the check of a socket is the one that the configuration has passed
  · intro config level hload host size hrefused
    have hinvalid := (Server.bind_eq_invalidBufferSize_iff.mp hrefused).1
    exact hinvalid (validBufferSize_of_load hload)
  · intro config level hload
    refine ⟨fun host size hrefused => ?_, fun script link index direction => ?_⟩
    · have hinvalid := (Client.connect_eq_invalidBufferSize_iff.mp hrefused).1
      exact hinvalid (validBufferSize_of_load hload)
    · exact Client.result_runFrom_ne_zeroTimeout (timeout_ne_zero_of_load hload) index direction

/-- Five command lines for a client: one without its file, one whose file is no document, two whose
options have a problem, the first of which hides the other, and one that loads. -/
theorem load_resolves_each_problem :
    let read : String → Except Fault String := fun path =>
      if path = "c.toml" then .ok "[client]\ntarget = 'nowhere'\nbuffer_size = 0\n"
      else if path = "cut.toml" then .ok "[client"
      else .error .noSuchFile
    let outcome (path : String) (given : ClientArguments) :=
      load read { config := some path, side := .client given }
    let target := SocketAddress.v4 .loopback 7
    outcome "none.toml" {} = .error (.unreadable "none.toml" .noSuchFile) ∧
      (∃ defect, outcome "cut.toml" {} = .error (.defective "cut.toml" defect)) ∧
      (outcome "c.toml" {}).map (·.mode) = .error (.invalidAddress "nowhere") ∧
      (outcome "c.toml" { target := some "127.0.0.1:7" }).map (·.mode) =
        .error (.invalidBufferSize 0) ∧
      (outcome "c.toml" { target := some "127.0.0.1:7", bufferSize := some 512 }).map (·.mode) =
        .ok (.client { Client.Config.standard with target, bufferSize := 512 }) := by
  intro read outcome target
  have hlegible : ∀ given : ClientArguments,
      Legible read { config := some "c.toml", side := .client given } := by
    rintro given path ⟨⟩
    refine ⟨_, { client := { target := "nowhere", bufferSize := 0 } }, rfl, ?_⟩
    exact eq_ok_of_toOption_eq_some (by decide +kernel)
  have hstated : ∀ given : ClientArguments,
      stated read { config := some "c.toml", side := .client given } =
        { client := { target := some "nowhere", bufferSize := some 0 } } := by
    intro given
    have hdocument : stated read { config := some "c.toml", side := .client {} } =
        { client := { target := some "nowhere", bufferSize := some 0 } } := by decide +kernel
    exact hdocument
  have hdecides := fun given => ((load_resolves read
    { config := some "c.toml", side := .client given }).2.1 (hlegible given)).1
  simp only [hstated] at hdecides
  refine ⟨?_, ?_, ?_, ?_, ?_⟩
  · exact ((load_resolves read _).1 "none.toml" rfl).1 .noSuchFile rfl
  · obtain ⟨defect, hdefect⟩ : ∃ defect, Settings.ofText "[client" = .error defect := by
      have hnone : (Settings.ofText "[client").toOption = none := by decide +kernel
      cases htext : Settings.ofText "[client" with
      | error defect => exact ⟨defect, rfl⟩
      | ok settings => rw [htext] at hnone; cases hnone
    exact ⟨defect, ((load_resolves read _).1 "cut.toml" rfl).2 _ defect rfl hdefect⟩
  · exact ((hdecides _).error _).mpr rfl
  · exact ((hdecides _).error _).mpr rfl
  · exact ((hdecides _).ok _).mpr ⟨rfl, .client rfl rfl rfl rfl rfl rfl rfl⟩

end Configuration

end DatagramEcho

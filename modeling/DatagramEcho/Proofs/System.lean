import DatagramEcho.Proofs.Program
import DatagramEcho.System

/-!
# The program on a host

On a host the program over a system is the program as a function. Each piece of it does to the link
what its counterpart does, and comes to the same result.

* `openServer_system`, `openClient_system` and `runFrom_system`: sockets are opened and runs are
  made on a host as `Server.bind`, `Client.connect` and `Client.runFrom` say.
* `run_eq_run_system`: the whole program.
-/

namespace DatagramEcho

variable {host : Host} {read : String → Except Fault String} {environment : Option String}
  {world : World}

namespace System

/-- One action after the other. -/
theorem bind_apply {α β : Type} (first : StateM World α) (second : α → StateM World β) :
    (first >>= second) world = second (first world).1 (first world).2 := rfl

/-- No action. -/
theorem pure_apply {α : Type} (a : α) : (pure a : StateM World α) world = (a, world) := rfl

/-- A server is bound on a host as `Server.bind` says. -/
theorem openServer_system (config : Server.Config) :
    (host.system read environment).openServer config world =
      ((Server.bind host config).map (·.address), world) := by
  unfold openServer Server.bind
  split_ifs with hvalid
  · rw [bind_apply]
    simp only [Host.system]
    cases host.bind config.listen <;> rfl
  · rfl

/-- A client is connected on a host as `Client.connect` says. -/
theorem openClient_system (config : Client.Config) :
    (host.system read environment).openClient config world =
      ((Client.connect host config).map (·.address), world) := by
  unfold openClient Client.connect
  split_ifs with hvalid
  · rw [bind_apply]
    simp only [Host.system]
    cases host.bind config.bind with
    | error fault => rfl
    | ok address =>
      simp only [pure_apply, bind_apply]
      cases host.connect address config.target <;> rfl
  · rfl

/-- An exchange on a host is an exchange over the link. -/
theorem exchange_system (socket : SocketAddress) (config : Client.Config) (index : ℕ)
    (payload : Payload) :
    (host.system read environment).exchange socket config index payload world =
      ((Client.exchange config index payload world.link).result,
        { world with link := (Client.exchange config index payload world.link).link }) := by
  unfold exchange Client.exchange
  rw [bind_apply]
  simp only [Host.system]
  cases world.link.send payload <;> rfl

/-- A run on a host is a run over the link. -/
theorem runFrom_system (socket : SocketAddress) (config : Client.Config) (index : ℕ)
    (script : Script) :
    (host.system read environment).runFrom socket config index script world =
      ((Client.runFrom config index script world.link).result,
        { world with link := (Client.runFrom config index script world.link).link }) := by
  induction script generalizing index world with
  | nil => rfl
  | cons payload script ih =>
    rw [runFrom, bind_apply, exchange_system]
    cases hfirst : (Client.exchange config index payload world.link).result with
    | error halt => rw [Client.runFrom_cons_of_error hfirst]; rfl
    | ok first =>
      rw [Client.runFrom_cons_of_ok hfirst]
      dsimp only
      rw [bind_apply, ih]
      rfl

/-- A server runs on a host as `Program.runServer` says. -/
theorem runServer_system (config : Server.Config) :
    (host.system read environment).runServer config world =
      (Program.runServer host config, world) := by
  rw [runServer, bind_apply, openServer_system, Program.runServer]
  unfold Server.bind
  split_ifs with hvalid
  · cases host.bind config.listen <;> rfl
  · rfl

/-- A client runs on a host as `Program.runClient` says. -/
theorem runClient_system (config : Client.Config) :
    (host.system read environment).runClient config world =
      ((Program.runClient host world.link config).1,
        { world with link := (Program.runClient host world.link config).2 }) := by
  rw [runClient, bind_apply, openClient_system]
  cases hconnect : Client.connect host config with
  | error failure => rw [Program.runClient, hconnect]; rfl
  | ok client =>
    rw [Program.runClient_of_connect hconnect]
    simp only [Except.map, bind_apply, runFrom_system]
    rfl

/-- The lines that a host is to show are kept in order. -/
theorem forM_warn (messages : List String) :
    messages.forM (host.system read environment).warn world =
      ((), { world with warnings := world.warnings ++ messages }) := by
  induction messages generalizing world with
  | nil => rw [List.append_nil]; rfl
  | cons message messages ih =>
    rw [← List.singleton_append, ← List.append_assoc]
    exact @ih { world with warnings := world.warnings ++ [message] }

/-- A configuration runs on a host as `Program.runConfiguration` says. -/
theorem runConfiguration_system (configuration : Configuration) (link : Link) :
    let ended := (host.system read environment).runConfiguration configuration { link }
    (ended.1.after ended.2.warnings, ended.2.link) =
      Program.runConfiguration host environment link configuration := by
  intro ended
  have hlog : ended = (if (Log.start environment configuration.logLevel).starts then
      (host.system read environment).runMode configuration.mode else pure Program.aborted)
        ⟨link, (Log.start environment configuration.logLevel).complaints⟩ := by
    simp only [ended, runConfiguration, bind_apply, forM_warn]
    rfl
  rw [hlog, Program.runConfiguration]
  split_ifs with hstarts
  · cases configuration.mode with
    | server config => simp only [runMode, runServer_system]
    | client config => simp only [runMode, runClient_system]
  · rfl

/-- A configuration is loaded on a host as `Configuration.load` says. -/
theorem load_system (arguments : CommandLine.Arguments) :
    (host.system read environment).load arguments world =
      (Configuration.load read arguments, world) := by
  unfold load Configuration.load
  cases arguments.config <;> rfl

end System

namespace Program

/-- The lines shown before a run are none if there are none. -/
theorem Ending.after_nil (ending : Ending) : ending.after [] = ending := by
  cases ending with
  | exited code complaint =>
    by_cases hempty : complaint = "" <;> simp [after, hempty]
  | serving server => rfl
  | stalled index => rfl

/-- On a host the program over a system is the program as a function: it ends alike, with the lines
shown so far, and leaves the same link. -/
theorem run_eq_run_system (host : Host) (read : String → Except Fault String)
    (environment : Option String) (link : Link) (words : List String) :
    let ended := (host.system read environment).run words { link }
    run host read environment link words = (ended.1.after ended.2.warnings, ended.2.link) := by
  intro ended
  rw [run]
  cases hwords : CommandLine.Arguments.ofWords words with
  | error refusal =>
    have hended : ended = (refused refusal, { link }) := by
      simp only [ended, System.run, hwords]
      split_ifs <;> rfl
    rw [hended, Ending.after_nil]
  | ok arguments =>
    cases hload : Configuration.load read arguments with
    | error problem =>
      have hended : ended = (failed problem.parts, { link }) := by
        simp only [ended, System.run, hwords, System.bind_apply, System.load_system, hload]
        rfl
      simp only [hended, hload, Ending.after_nil]
    | ok configuration =>
      have hended : ended =
          (host.system read environment).runConfiguration configuration { link } := by
        simp only [ended, System.run, hwords, System.bind_apply, System.load_system, hload]
      simp only [hended, hload]
      exact (System.runConfiguration_system configuration link).symm

end Program

end DatagramEcho

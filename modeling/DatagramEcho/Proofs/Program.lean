import DatagramEcho.Program
import DatagramEcho.Proofs.Client.Answers
import DatagramEcho.Proofs.Configuration.Resolution

/-!
# What the exit code of a client says

A client that ends with exit code zero has sent its whole plan and seen every answer that was due.
It is never an empty success: a configuration without payloads has the standard script in their
place, so that there is always something to send.

* `Script.planned`: the payloads of the command line, or else those of the settings file, or else
  the standard script. By `script_eq_planned` this is what a configured client sends.
* `Ending.Passes`: an ending with exit code zero. By `passes_runClient_iff` and
  `passes_runConfiguration_iff` it goes back to the result of the run.
* `run_passes_iff`: the same from the words of the command line on, with what it says about the
  peer.
-/

namespace DatagramEcho

open CommandLine

/-! ## The plan -/

namespace Script

/-- The payloads that texts spell. -/
def ofTexts (texts : List String) : Script :=
  texts.map fun text => text.toUTF8.toList

/-- The payloads given, or else those stated, or else the standard script. -/
def planned (given stated : List String) (capacity : ℕ) : Script :=
  if given ≠ [] then ofTexts given
  else if stated ≠ [] then ofTexts stated
  else standard capacity

/-- There is always something to send. -/
theorem planned_ne_nil (given stated : List String) (capacity : ℕ) :
    planned given stated capacity ≠ [] := by
  unfold planned ofTexts
  split_ifs with hgiven hstated
  · simpa using hgiven
  · simpa using hstated
  · simp [standard]

/-- Payloads laid over each other, with the standard script below them all, are what is planned. -/
theorem orStandard_ofTexts (given stated : List String) (capacity : ℕ) :
    (ofTexts (if given.isEmpty then if stated.isEmpty then [] else stated else given)).orStandard
      capacity = planned given stated capacity := by
  cases given with
  | cons text given => simp [planned, ofTexts, orStandard]
  | nil => cases stated <;> simp [planned, ofTexts, orStandard]

end Script

/-- The payloads that a command line gives. -/
def CommandLine.Arguments.payloads (arguments : Arguments) : List String :=
  match arguments.side with
  | .server _ => []
  | .client given => given.payloads

variable {read : String → Except Fault String} {arguments : Arguments} {config : Client.Config}
  {level : String}

/-- A configured client sends what is planned. -/
theorem Configuration.script_eq_planned
    (hload : load read arguments = .ok ⟨.client config, level⟩) :
    config.script =
      .planned arguments.payloads (stated read arguments).client.payloads config.bufferSize := by
  obtain ⟨-, hdescribes⟩ := describes_of_load hload
  unfold Arguments.options at hdescribes
  unfold Arguments.payloads
  cases hside : arguments.side with
  | server given => rw [hside] at hdescribes; cases hdescribes
  | client given =>
    rw [hside] at hdescribes
    cases hdescribes with
    | client target bind bufferSize timeout silenceWindow contract payloads =>
      rw [Client.Config.script, payloads]
      exact Script.orStandard_ofTexts _ _ _

/-! ## Endings -/

namespace Program

/-- A run of the program ends with exit code zero. -/
def Ending.Passes (ending : Ending) : Prop :=
  ∃ complaint, ending = .exited 0 complaint

@[simp]
theorem passes_exited_iff (code : ℕ) (complaint : String) :
    (Ending.exited code complaint).Passes ↔ code = 0 := by
  constructor
  · rintro ⟨other, hexited⟩
    cases hexited
    rfl
  · rintro rfl
    exact ⟨complaint, rfl⟩

@[simp]
theorem not_passes_stalled (index : ℕ) : ¬ (Ending.stalled index).Passes := by
  rintro ⟨complaint, hexited⟩
  cases hexited

/-- Messages of the log change no exit code. -/
theorem passes_after_iff (ending : Ending) (messages : List String) :
    (ending.after messages).Passes ↔ ending.Passes := by
  cases ending with
  | exited code complaint => simp [Ending.after]
  | serving server => rfl
  | stalled index => rfl

/-- The end of a client's run passes if there is a report. -/
theorem passes_ofResult_iff (result : Except Client.Halt Client.Report) :
    (ofResult result).Passes ↔ ∃ report, result = .ok report := by
  cases result with
  | ok report => simp [ofResult]
  | error halt =>
    -- neither a failure nor an endless wait ends with exit code zero
    cases halt <;> simp [ofResult, failed]

variable {host : Host} {environment : Option String} {link : Link} {config : Client.Config}
  {level : String}

/-- A client that is connected keeps what it was told to do. -/
theorem config_of_connect {client : Client.Connected}
    (hconnect : Client.connect host config = .ok client) : client.config = config := by
  unfold Client.connect at hconnect
  -- only the last case gives a client, which gets the configuration as it is
  split_ifs at hconnect
  split at hconnect
  · cases hconnect
  · split at hconnect
    · cases hconnect
    · cases hconnect
      rfl

/-- A client that is connected runs its script, and ends as the run does. -/
theorem runClient_of_connect {client : Client.Connected}
    (hconnect : Client.connect host config = .ok client) :
    runClient host link config =
      (ofResult (Client.run config config.script link).result,
        (Client.run config config.script link).link) := by
  unfold runClient
  rw [hconnect]
  dsimp only
  rw [config_of_connect hconnect]

/-- A client passes if it can be connected and its run ends in a report. -/
theorem passes_runClient_iff :
    (runClient host link config).1.Passes ↔
      (∃ client, Client.connect host config = .ok client) ∧
        ∃ report, (Client.run config config.script link).result = .ok report := by
  cases hconnect : Client.connect host config with
  | error failure =>
    have hfailed : (runClient host link config).1 = failed failure.parts := by
      unfold runClient
      rw [hconnect]
    rw [hfailed]
    simp [failed]
  | ok client =>
    rw [runClient_of_connect hconnect, passes_ofResult_iff]
    simp

/-- The program passes as a client if its log starts and the client passes. -/
theorem passes_runConfiguration_iff :
    (runConfiguration host environment link ⟨.client config, level⟩).1.Passes ↔
      (Log.start environment level).starts = true ∧ (runClient host link config).1.Passes := by
  unfold runConfiguration
  rw [passes_after_iff]
  split_ifs with hstarts
  · simp [hstarts]
  · simp [hstarts, aborted]

/-- A client that passes has brought its script to the peer, each payload once and in order. -/
theorem requests_of_passes {peer : Peer} (hpasses : (runClient host { peer } config).1.Passes) :
    (runClient host { peer } config).2.requests = config.script := by
  obtain ⟨⟨client, hconnect⟩, report, hreport⟩ := passes_runClient_iff.mp hpasses
  rw [runClient_of_connect hconnect]
  exact (Client.phases_runFrom_of_ok hreport).2

/-- Once the log starts, the program does as a client what the client does. -/
theorem link_runConfiguration (hstarts : (Log.start environment level).starts = true) :
    (runConfiguration host environment link ⟨.client config, level⟩).2 =
      (runClient host link config).2 := by
  simp only [runConfiguration, if_pos hstarts]

/-- If the log does not start, the program is aborted, and nothing is sent. -/
theorem runConfiguration_of_not_starts {configuration : Configuration}
    (hstarts : (Log.start environment configuration.logLevel).starts = false) :
    runConfiguration host environment link configuration =
      (aborted.after (Log.start environment configuration.logLevel).complaints, link) := by
  simp only [runConfiguration, hstarts, Bool.false_eq_true, if_false]

/-- An accepted command line whose configuration loads is run as that configuration. -/
theorem run_of_load {words : List String} {configuration : Configuration}
    (hwords : Arguments.ofWords words = .ok arguments)
    (hload : Configuration.load read arguments = .ok configuration) :
    run host read environment link words =
      runConfiguration host environment link configuration := by
  unfold run
  rw [hwords]
  dsimp only
  rw [hload]

/-- Let a command line and a settings file be configured as a client. The plan is what the command
line gives, or else what the file states, or else the standard script for the buffer size. Whoever
the peer is, the client passes exactly if it can be connected and its run of the plan ends in a
report. The program passes exactly if its log starts and the client passes; if the log does not
start, the program is aborted before anything is sent. There is always a plan. So a client that
passes has sent something, the peer got the whole plan, each payload once and in order, and every
payload to which a reply is due was answered. -/
theorem run_passes_iff {words : List String} (hwords : Arguments.ofWords words = .ok arguments)
    (hload : Configuration.load read arguments = .ok ⟨.client config, level⟩)
    (host : Host) (environment : Option String) (peer : Peer) :
    let plan := Script.planned arguments.payloads
      (Configuration.stated read arguments).client.payloads config.bufferSize
    let log := Log.start environment level
    let path := runClient host { peer } config
    let whole := run host read environment { peer } words
    (path.1.Passes ↔
      (∃ client, Client.connect host config = .ok client) ∧
        ∃ report, (Client.run config plan { peer }).result = .ok report) ∧
    (whole.1.Passes ↔ log.starts = true ∧ path.1.Passes) ∧
    (log.starts = true → whole.2 = path.2) ∧
    (log.starts = false → whole = (aborted.after log.complaints, { peer })) ∧
    plan ≠ [] ∧
    (path.1.Passes →
      path.2.requests = plan ∧ path.2.requests ≠ [] ∧
      ∀ before payload after, plan = before ++ payload :: after →
        config.contract.Expects payload →
          ∃ datagram, Client.Answered config { peer } before payload datagram) := by
  intro plan log path whole
  have hplan : config.script = plan := Configuration.script_eq_planned hload
  have hwhole : whole = runConfiguration host environment { peer } ⟨.client config, level⟩ :=
    run_of_load hwords hload
  have hne : plan ≠ [] := Script.planned_ne_nil _ _ _
  have hpath : path.1.Passes ↔ (∃ client, Client.connect host config = .ok client) ∧
      ∃ report, (Client.run config plan { peer }).result = .ok report := by
    rw [← hplan]
    exact passes_runClient_iff
  -- what remains are the program around the client, and what a client has done that passes
  refine ⟨hpath, ?_, fun hstarts => ?_, fun hstarts => ?_, hne, fun hpasses => ?_⟩
  · rw [hwhole]
    exact passes_runConfiguration_iff
  · rw [hwhole]
    exact link_runConfiguration hstarts
  · rw [hwhole]
    exact runConfiguration_of_not_starts hstarts
  · have hrequests : path.2.requests = plan := (requests_of_passes hpasses).trans hplan
    refine ⟨hrequests, by rwa [hrequests], fun before payload after hsplit hexpects => ?_⟩
    obtain ⟨-, report, hreport⟩ := hpath.mp hpasses
    rw [hsplit] at hreport
    exact Client.exists_answered_of_run_eq_ok hreport hexpects

/-- The program passes if it finds one letter in its settings file and the letter comes back. -/
theorem run_passes_of_letter :
    let read : String → Except Fault String := fun path =>
      if path = "/home/c.toml" then .ok "client.payloads = ['a']" else .error .noSuchFile
    let words := ["client", "--config", "/home/c.toml"]
    let arguments : Arguments := { config := some "/home/c.toml", side := .client {} }
    let config := { Client.Config.standard with payloads := [[97]] }
    let peer := Peer.scripted [[[97]]]
    Arguments.ofWords words = .ok arguments ∧
      Configuration.load read arguments = .ok ⟨.client config, "info"⟩ ∧
      (run .connected read none { peer } words).1.Passes ∧
      (run .connected read none { peer } words).2.requests = [[97]] := by
  intro read words arguments config peer
  have hwords : Arguments.ofWords words = .ok arguments := rfl
  have hload : Configuration.load read arguments = .ok ⟨.client config, "info"⟩ :=
    eq_ok_of_toOption_eq_some (by decide +kernel)
  have hstarts : (Log.start none "info").starts = true := by decide
  have hplan := Configuration.script_eq_planned hload
  obtain ⟨hpath, hwhole, hlink, -, -, hpassed⟩ :=
    run_passes_iff hwords hload .connected none peer
  rw [← hplan] at hpath hpassed
  have hpasses := hpath.mpr ⟨⟨_, rfl⟩, ⟨[⟨0, 1, some 1⟩]⟩, rfl⟩
  refine ⟨hwords, hload, hwhole.mpr ⟨hstarts, hpasses⟩, ?_⟩
  rw [hlink hstarts]
  exact (hpassed hpasses).1

/-- Not every plan that is validated makes the program pass. With a blank of more than one byte in
front of a directive the log does not start, and the program is aborted although the client would
have passed. -/
theorem not_passes_of_cut_directive :
    let read : String → Except Fault String := fun _ => .error .noSuchFile
    let words := ["--log-level", "\u3000a=info", "client", "-p", "a"]
    let arguments : Arguments :=
      { logLevel := "\u3000a=info", side := .client { payloads := ["a"] } }
    let config := { Client.Config.standard with payloads := [[97]] }
    let peer := Peer.scripted [[[97]]]
    Arguments.ofWords words = .ok arguments ∧
      Configuration.load read arguments = .ok ⟨.client config, "\u3000a=info"⟩ ∧
      (∃ client, Client.connect .connected config = .ok client) ∧
      (∃ report, (Client.run config [[97]] { peer }).result = .ok report) ∧
      (runClient .connected { peer } config).1.Passes ∧
      run .connected read none { peer } words = (.exited 101 "", { peer }) ∧
      ¬ (run .connected read none { peer } words).1.Passes := by
  intro read words arguments config peer
  have hwords : Arguments.ofWords words = .ok arguments := rfl
  have hload : Configuration.load read arguments = .ok ⟨.client config, "\u3000a=info"⟩ :=
    eq_ok_of_toOption_eq_some (by decide +kernel)
  have hlog : Log.start none "\u3000a=info" = ⟨false, []⟩ := by decide +kernel
  have hrun : run .connected read none { peer } words = (.exited 101 "", { peer }) := by
    rw [run_of_load hwords hload, runConfiguration_of_not_starts (by rw [hlog])]
    dsimp only
    rw [hlog]
    rfl
  refine ⟨hwords, hload, ⟨_, rfl⟩, ⟨⟨[⟨0, 1, some 1⟩]⟩, rfl⟩, ?_, hrun, ?_⟩
  · exact passes_runClient_iff.mpr ⟨⟨_, rfl⟩, ⟨[⟨0, 1, some 1⟩]⟩, rfl⟩
  · rw [hrun]
    simp

end Program

end DatagramEcho

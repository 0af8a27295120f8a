import DatagramEcho.Configuration
import DatagramEcho.LogFilter

/-!
# The program

The program reads its command line, loads its configuration, starts its log, and runs a server or a
client. The log takes its filter from the environment, or else from the configuration. What it has
to say about its filter comes before any complaint of the run. If the log cannot start, the program
is aborted. A server runs until it is killed, so that only a server that cannot start has an exit
code. A client ends with exit code zero if it could check every reply, and with one otherwise.
-/

namespace DatagramEcho.Program

/-- How a run of the program ends. -/
inductive Ending where
  /-- The program ends with an exit code, and writes a text to standard error. -/
  | exited (code : Nat) (complaint : String)
  /-- A server runs until it is killed. -/
  | serving (server : Server.Bound)
  /-- A client waits forever for a reply. -/
  | stalled (index : Nat)

/-- An ending with messages before its complaint. -/
def Ending.after (messages : List String) : Ending → Ending
  | exited code complaint =>
    exited code ("\n".intercalate (messages ++ [complaint].filter (· ≠ "")))
  | ending => ending

/-- The end of a run that an error ends. -/
def failed (parts : String) : Ending :=
  .exited 1 ("Error: " ++ parts)

/-- The end of a run whose log does not start. -/
def aborted : Ending :=
  .exited 101 ""

/-- The end of a run that the command line refuses. Help and version go to standard output. -/
def refused (refusal : CommandLine.Refusal) : Ending :=
  .exited refusal.exitCode
    (if refusal.exitCode = 0 then "" else refusal.text Text.plainStream)

/-- The end of a client's run. -/
def ofResult : Except Client.Halt Client.Report → Ending
  | .ok _ => .exited 0 ""
  | .error (.failure failure) => failed failure.parts
  | .error (.stalled index) => .stalled index

/-- Run a server. -/
def runServer (host : Host) (config : Server.Config) : Ending :=
  match Server.bind host config with
  | .ok server => .serving server
  | .error failure => failed failure.parts

/-- Run a client over a link to its target. The link after the run comes with the end of it. -/
def runClient (host : Host) (link : Link) (config : Client.Config) : Ending × Link :=
  match Client.connect host config with
  | .error failure => (failed failure.parts, link)
  | .ok client =>
    let run := Client.run client.config config.script link
    (ofResult run.result, run.link)

/-- Run a configuration. `environment` is the log filter in the environment, if there is one, and
`link` leads to whoever is at the target of a client. -/
def runConfiguration (host : Host) (environment : Option String) (link : Link)
    (configuration : Configuration) : Ending × Link :=
  let log := Log.start environment configuration.logLevel
  let (ending, link) :=
    if log.starts then
      match configuration.mode with
      | .server config => (runServer host config, link)
      | .client config => runClient host link config
    else (aborted, link)
  (ending.after log.complaints, link)

/-- Run the program on a command line. `read` gives the text of the file at a path. -/
def run (host : Host) (read : String → Except Fault String) (environment : Option String)
    (link : Link) (words : List String) : Ending × Link :=
  match CommandLine.Arguments.ofWords words with
  | .error refusal => (refused refusal, link)
  | .ok arguments =>
    match Configuration.load read arguments with
    | .error problem => (failed problem.parts, link)
    | .ok configuration => runConfiguration host environment link configuration

end DatagramEcho.Program

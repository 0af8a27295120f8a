import DatagramEcho.Main
import DatagramEcho.Proofs.Client.Exactness
import DatagramEcho.Proofs.Client.RoundTrip
import DatagramEcho.Proofs.Client.Stream
import DatagramEcho.Proofs.Client.Trace
import DatagramEcho.Proofs.Configuration
import DatagramEcho.Server.Loop.Readiness
import DatagramEcho.Server.Loop.Selecting
import DatagramEcho.Server.Session
import DatagramEcho.Proofs.Client.Disagreement
import DatagramEcho.Proofs.Server.Ledger
import DatagramEcho.Proofs.Server.EventLoops
import DatagramEcho.Proofs.Client.Reconciliation
import DatagramEcho.Proofs.Contract.Diagnosis
import DatagramEcho.Proofs.Settings.Stated
import DatagramEcho.Proofs.Configuration.Resolution
import DatagramEcho.Proofs.CommandLine.Spelled
import DatagramEcho.Proofs.Configuration.LogLevel
import DatagramEcho.Proofs.Client.Answers
import DatagramEcho.Proofs.Program
import DatagramEcho.Proofs.System
import DatagramEcho.Proofs.Client.History
import DatagramEcho.Proofs.Server.Tally
import DatagramEcho.Proofs.Toml.Distinct
import DatagramEcho.Proofs.Settings.Content
import DatagramEcho.Proofs.Settings.Known
import DatagramEcho.Proofs.Settings.Overlay
import DatagramEcho.Proofs.CommandLine.Line
import DatagramEcho.Proofs.Client.Inversion

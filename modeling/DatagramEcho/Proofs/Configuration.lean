import DatagramEcho.Configuration
import DatagramEcho.Proofs.Outcome
import Mathlib.Data.Nat.Notation

/-!
# Laws of the configuration

What every configuration has in common that passed its checks, whatever the command line and the
settings file hold.

* `timeout_ne_zero_of_load`: no client is told to wait for no time at all, which its socket would
  refuse.
-/

namespace DatagramEcho

namespace CommandLine

/-- A timeout of zero milliseconds stands for no timeout. -/
theorem timeout_ne_zero (milliseconds : ℕ) : timeout milliseconds ≠ some .zero := by
  unfold timeout
  split
  · simp
  · simp only [TimeSpan.ofMilliseconds, TimeSpan.zero, ne_eq, Option.some.injEq,
      TimeSpan.mk.injEq]
    omega

/-- A client that was resolved has a timeout that its socket takes. -/
theorem timeout_ne_zero_of_resolve {arguments : ClientArguments} {settings : Settings.Client}
    {client : Client.Config} (hclient : arguments.resolve settings = .ok client) :
    client.timeout ≠ some .zero := by
  unfold ClientArguments.resolve at hclient
  obtain ⟨target, -, hclient⟩ := exists_of_bind_eq_ok hclient
  obtain ⟨bind, -, hclient⟩ := exists_of_bind_eq_ok hclient
  obtain ⟨bufferSize, -, hclient⟩ := exists_of_bind_eq_ok hclient
  cases hclient
  exact timeout_ne_zero _

end CommandLine

namespace Configuration

/-- A configuration that loads is resolved from some settings, those of the file or the defaults. -/
theorem exists_resolve_of_load {read : String → Except Fault String}
    {arguments : CommandLine.Arguments} {configuration : Configuration}
    (hload : load read arguments = .ok configuration) :
    ∃ settings, arguments.resolve settings = .ok configuration := by
  unfold load at hload
  cases hconfig : arguments.config with
  | none => rw [hconfig] at hload; exact ⟨{}, hload⟩
  | some path =>
    rw [hconfig] at hload
    obtain ⟨settings, -, hresolve⟩ := exists_of_bind_eq_ok hload
    exact ⟨settings, hresolve⟩

/-- A client that was configured has a timeout that its socket takes. -/
theorem timeout_ne_zero_of_load {read : String → Except Fault String}
    {arguments : CommandLine.Arguments} {logLevel : String} {client : Client.Config}
    (hload : load read arguments = .ok ⟨.client client, logLevel⟩) :
    client.timeout ≠ some .zero := by
  obtain ⟨settings, hresolve⟩ := exists_resolve_of_load hload
  unfold CommandLine.Arguments.resolve at hresolve
  cases hside : arguments.side with
  | server server =>
    rw [hside] at hresolve
    obtain ⟨mode, hmode, hresolve⟩ := exists_of_bind_eq_ok hresolve
    cases hserver : server.resolve settings.server <;> rw [hserver] at hmode <;> cases hmode
    cases hresolve
  | client arguments =>
    rw [hside] at hresolve
    obtain ⟨mode, hmode, hresolve⟩ := exists_of_bind_eq_ok hresolve
    cases hclient : arguments.resolve settings.client with
    | error problem => rw [hclient] at hmode; cases hmode
    | ok resolved =>
      rw [hclient] at hmode
      cases hmode
      cases hresolve
      exact CommandLine.timeout_ne_zero_of_resolve hclient

end Configuration

end DatagramEcho

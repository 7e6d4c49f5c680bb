import ToolHost.Cli
import ToolHost.Proofs.Config.Settled

/-!
# Prepared runs

A run that is ready to begin carries out its mode with the settings and the directory that were
found, in a house in which nothing has happened yet.
-/
namespace ToolHost.Cli

open CommandLine (Invocation Mode)
open Machine (Host)

theorem ok_of_toOption {ε α : Type} {x : Except ε α} {a : α} (h : x.toOption = some a) :
    x = .ok a := by
  cases x with
  | error e => cases h
  | ok b => exact congrArg _ (Option.some.inj h)

theorem withVerbosity_session (s : Config.Settings) (flags : Nat) :
    (withVerbosity s flags).session = s.session := by
  unfold withVerbosity
  split <;> rfl

/-- Whatever was found on the way, nothing has happened yet in the house of a prepared run. -/
theorem prepare_ok {host : Host} {i : Invocation} {m : Mode} {inputs : List Prompt.Input}
    {p : Prepared} (prepared : (prepare host i m inputs).outcome = .ok p) :
    ∃ dir settings left location, projectDirectory host i.directory = .ok dir ∧
      (Config.build host (some dir.text)).outcome = .ok settings ∧
      p.house = { plan := .ofSettings (withVerbosity settings i.verbosity) [], host := left,
                  location } ∧
      p.routine = exitCode ⟨withVerbosity settings i.verbosity, dir, inputs⟩ m := by
  obtain ⟨dir, hdir, prepared⟩ := Config.Logged.bind_ok prepared
  obtain ⟨settings, hsettings, prepared⟩ := Config.Logged.bind_ok prepared
  obtain ⟨⟨log, found⟩, -, prepared⟩ := Config.Logged.bind_ok prepared
  obtain ⟨⟨log', left⟩, -, prepared⟩ := Config.Logged.bind_ok prepared
  obtain ⟨location, -, prepared⟩ := Config.Logged.bind_ok prepared
  obtain ⟨location', -, prepared⟩ := Config.Logged.bind_ok prepared
  obtain rfl := Except.ok.inj prepared
  exact ⟨dir, settings, left, location', hdir, hsettings, rfl, rfl⟩

/-- What the user enters only shows in the routine. -/
theorem prepare_inputs {host : Host} {i : Invocation} {m : Mode} {inputs : List Prompt.Input}
    {p : Prepared} (prepared : (prepare host i m inputs).outcome = .ok p) :
    ∃ settings dir, p.routine = exitCode ⟨settings, dir, inputs⟩ m ∧ ∀ others,
      (prepare host i m others).outcome =
        .ok { p with routine := exitCode ⟨settings, dir, others⟩ m } := by
  obtain ⟨dir, hdir, prepared⟩ := Config.Logged.bind_ok prepared
  obtain ⟨settings, hsettings, prepared⟩ := Config.Logged.bind_ok prepared
  obtain ⟨⟨log, found⟩, hlog, prepared⟩ := Config.Logged.bind_ok prepared
  obtain ⟨⟨log', left⟩, hleft, prepared⟩ := Config.Logged.bind_ok prepared
  obtain ⟨location, hlocation, prepared⟩ := Config.Logged.bind_ok prepared
  obtain ⟨location', hlocation', prepared⟩ := Config.Logged.bind_ok prepared
  obtain rfl := Except.ok.inj prepared
  refine ⟨withVerbosity settings i.verbosity, dir, rfl, fun others => ?_⟩
  refine (Config.Logged.ok_bind hdir).trans ((Config.Logged.ok_bind hsettings).trans ?_)
  refine (Config.Logged.ok_bind hlog).trans ((Config.Logged.ok_bind hleft).trans ?_)
  exact (Config.Logged.ok_bind hlocation).trans (Config.Logged.ok_bind hlocation')

end ToolHost.Cli

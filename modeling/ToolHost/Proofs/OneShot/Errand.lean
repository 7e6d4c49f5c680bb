import Mathlib.Tactic
import ToolHost.Cli
import ToolHost.Proofs.OneShot.Shots
import ToolHost.Proofs.Routines
import ToolHost.Proofs.Shell.Quoting
import ToolHost.Proofs.Terminal.Protection

/-!
# An errand

The program is told to run the tool with some words. Nothing has happened yet, the runtime is
configured and the artifact is there. The routine is cut up at the points where it has to wait.
-/
namespace ToolHost.Cli

open Machine (Path)

/-- Words that the tool is to be run with, in a house in which nothing has happened yet. -/
structure Errand where
  work : Work
  words : List String
  house : House
  runtime : String
  artifact : Path
  words_ne_nil : words ≠ []
  plan : house.plan.runtime = some runtime
  place : house.location.artifactPath = .ok artifact
  present : house.artifact artifact = .ok ()
  rooms : house.rooms = []
  roster : house.roster = []
  installs : house.installs = []
  shots : house.shots = {}
  trace : house.trace = []

theorem firstFailure_single (code : Int) : firstFailure [code] = code := by
  by_cases hcode : code = 0 <;> simp [firstFailure, hcode]

namespace Errand

variable (e : Errand) (pid : Pid) (code : Int)

/-- The words of the process. -/
def argv : List String := e.runtime :: e.house.plan.runtimeArgs ++ e.artifact.text :: e.words

def command : String := Shell.join e.argv

def launch : OneShot.Launch := ⟨e.command, pid, e.work.dir.text⟩

def text : String := Shell.join e.words

def routine : Routine (Except Trouble Int) := (exitCode e.work (.exec e.words)).run

/-- The routine when it is about to launch the process. -/
def asking : Routine (Except Trouble Int) := e.routine.onLook e.house

/-- The routine when the process is there. -/
def telling : Routine (Except Trouble Int) := e.asking.onReply (.ok (.launched (e.launch pid)))

/-- The routine when the command has been shown. -/
def calling : Routine (Except Trouble Int) := (e.telling pid).onAlter

/-- The routine when the process has ended. -/
def leaving : Routine (Except Trouble Int) := (e.calling pid).onReply (.ok (.codes [code]))

/-- What is shown of the command. -/
def shown : List Char :=
  (Terminal.Markup.render ("[dim]$ " ++ Terminal.Markup.escape e.command ++ "[/dim]")).toOption.getD
    []

theorem command_read : Shell.split e.command = .ok e.argv := Shell.split_join e.argv

/-- The command can be shown. -/
theorem render_eq : Terminal.Markup.render
    ("[dim]$ " ++ Terminal.Markup.escape e.command ++ "[/dim]") = .ok e.shown := by
  obtain ⟨cs, hcs⟩ := Terminal.Markup.render_command e.command
  rw [shown, hcs]
  rfl

/-- The steps of the routine, as long as nothing fails. -/
theorem course :
    (e.routine = .look fun h => e.routine.onLook h) ∧
    (e.asking = .call (.oneShot e.artifact e.work.dir e.text) fun r => e.asking.onReply r) ∧
    (e.telling pid =
      .alter (·.say (.reported (Terminal.Markup.onPage e.shown))) (e.calling pid)) ∧
    (e.calling pid = .call .awaitOneShots fun r => (e.calling pid).onReply r) ∧
    (e.leaving pid code = .look fun h => (e.leaving pid code).onLook h) ∧
    ∀ h : House, h.roster = [] → (e.leaving pid code).onLook h = .done (.ok code) := by
  have hwords : e.words.isEmpty = false := by simpa using e.words_ne_nil
  have hshown := e.render_eq
  refine ⟨?_, ?_, ?_, ?_, ?_, fun h hroster => ?_⟩
  all_goals
    simp [leaving, calling, telling, asking, routine, exitCode, dispatch, carryOut, oneShot,
      Conduct.oneShot, Conduct.shutDown, report, Prompt.rendered, launch, text, hwords, e.place,
      hshown, Except.mapError, Routine.onLook, Routine.onReply, Routine.onAlter, firstFailure_single]
  simp [hroster, Conduct.stopAll]

end Errand

end ToolHost.Cli

import Mathlib
import ToolHost.Proofs.OneShot.Course
import ToolHost.Proofs.Preparing

/-!
# Words are handed over

Words behind the mode that runs the tool reach the tool as they are. They become one text on the
way, so that it takes a reader and a writer of command lines that agree on every text; and the exit
code of the process comes back through a reaper and a list of processes. Between the two the event
loop may run things in any order.
-/
namespace ToolHost.Cli

open CommandLine (Invocation)
open Machine (Host Path)

/-- The program runs the tool with some words, whatever they are, where the runtime is configured,
the artifact is there and the process can be created. At every moment the process with these words
in the chosen directory is the only one that was created, if it was. The command that is shown for
it reads back as its words. The program ends only when the process has, with its exit code; until
then there is something that can happen, and that does not go on forever. -/
theorem words_handed_over {host : Host} {i : Invocation} {words : List String}
    {inputs : List Prompt.Input} {p : Prepared} {dir artifact : Path} {runtime : String}
    (prepared : (prepare host i (.exec words) inputs).outcome = .ok p)
    (words_ne_nil : words ≠ [])
    (directory : projectDirectory host i.directory = .ok dir)
    (plan : p.house.plan.runtime = some runtime)
    (place : p.house.location.artifactPath = .ok artifact)
    (present : p.house.artifact artifact = .ok ())
    {w : World (Except Trouble Int)}
    (reach : World.Reaches Action.Spawns (.opening p.routine.run p.house) w) :
    let argv := runtime :: p.house.plan.runtimeArgs ++ artifact.text :: words
    let command := Shell.join argv
    Shell.split command = .ok argv ∧
    (spawned w.house.trace = [] ∨ ∃ pid, spawned w.house.trace = [(pid, argv, dir.text)]) ∧
    (∀ r, w.result? = some r → ∃ pid code shown, r = .ok code ∧
      spawned w.house.trace = [(pid, argv, dir.text)] ∧
      (∃ d ∈ w.done, ∃ id, (d.house.act d.action).returned =
        some (id, .ok (.launched ⟨command, pid, dir.text⟩))) ∧
      Terminal.Markup.render ("[dim]$ " ++ Terminal.Markup.escape command ++ "[/dim]") =
        .ok shown ∧
      .reported (Terminal.Markup.onPage shown) ∈ w.house.trace ∧
      .exited pid code ∈ w.house.trace) ∧
    (w.result? = none → ∃ v, World.Step Action.Spawns w v) ∧
    Acc (fun v u => World.Step Action.Spawns u v) w := by
  intro argv command
  obtain ⟨dir', settings, left, location, hdir, -, hhouse, hroutine⟩ := prepare_ok prepared
  obtain rfl := Except.ok.inj (directory.symm.trans hdir)
  let e : Errand := {
    work := ⟨withVerbosity settings i.verbosity, dir, inputs⟩
    words, house := p.house, runtime, artifact, words_ne_nil, plan, place, present
    rooms := by rw [hhouse]
    roster := by rw [hhouse]
    installs := by rw [hhouse]
    shots := by rw [hhouse]
    trace := by rw [hhouse] }
  rw [hroutine] at reach
  obtain ⟨n, stage⟩ := Stage.of_reaches (e := e) reach
  refine ⟨e.command_read, stage.spawned, fun r hr => ?_, stage.goes_on, stage.acc⟩
  obtain ⟨pid, code, x, rfl, finished⟩ := stage.finished hr
  exact ⟨pid, code, e.shown, rfl, finished.spawned, finished.replied, e.render_eq,
    finished.shows, finished.exited⟩

/-- A host with nothing but the artifact. -/
def stocked : Host := { files := { entries := [(["opt"], .dir), (["opt", "tool.jar"], .file [])] } }

def elsewhere : Invocation := { directory := some "/work", toolDirectory := some "/opt" }

/-- Words that mean something to a shell. -/
def oddWords : List String := ["it's", "", "a b", "--", "\\"]

/-- There is a run to the end with odd words. -/
theorem words_handed_over_odd : ∃ p w pid code,
    (prepare stocked elsewhere (.exec oddWords) []).outcome = .ok p ∧ oddWords ≠ [] ∧
    projectDirectory stocked elsewhere.directory = .ok ⟨.root, ["work"]⟩ ∧
    p.house.plan.runtime = some "java" ∧
    p.house.location.artifactPath = .ok ⟨.root, ["opt", "tool.jar"]⟩ ∧
    p.house.artifact ⟨.root, ["opt", "tool.jar"]⟩ = .ok () ∧
    World.Reaches Action.Spawns (.opening p.routine.run p.house) w ∧
    w.result? = some (.ok code) ∧
    spawned w.house.trace =
      [(pid, ["java", "-jar", "/opt/tool.jar", "it's", "", "a b", "--", "\\"], "/work")] := by
  have found : ((prepare stocked elsewhere (.exec oddWords) []).outcome.toOption.map fun p =>
      (p.house.plan.runtime, p.house.plan.runtimeArgs, p.house.location.artifactPath.toOption,
        (p.house.artifact ⟨.root, ["opt", "tool.jar"]⟩).toOption)) =
      some (some "java", ["-jar"], some ⟨.root, ["opt", "tool.jar"]⟩, some ()) := by
    decide +kernel
  obtain ⟨p, hp, found⟩ := Option.map_eq_some_iff.mp found
  simp only [Prod.mk.injEq] at found
  obtain ⟨plan, args, place, present⟩ := found
  have conclusion {w : World (Except Trouble Int)}
      (reach : World.Reaches Action.Spawns (.opening p.routine.run p.house) w) :=
    words_handed_over (ok_of_toOption hp) (by decide) rfl plan (ok_of_toOption place) (ok_of_toOption present) reach
  -- As long as the run is not over it goes on, and it does not go on forever.
  have ends {w : World (Except Trouble Int)}
      (acc : Acc (fun v u => World.Step Action.Spawns u v) w)
      (reach : World.Reaches Action.Spawns (.opening p.routine.run p.house) w) :
      ∃ v r, World.Reaches Action.Spawns (.opening p.routine.run p.house) v ∧
        v.result? = some r := by
    induction acc with
    | intro u _ ih =>
      cases hr : u.result? with
      | some r => exact ⟨u, r, reach, hr⟩
      | none =>
        obtain ⟨v, step⟩ := (conclusion reach).2.2.2.1 hr
        exact ih v step (reach.tail step)
  obtain ⟨w, r, reach, hr⟩ := ends (conclusion .refl).2.2.2.2 .refl
  obtain ⟨pid, code, shown, rfl, hspawned, -⟩ := (conclusion reach).2.2.1 r hr
  rw [args] at hspawned
  exact ⟨p, w, pid, code, ok_of_toOption hp, by decide, rfl, plan, ok_of_toOption place, ok_of_toOption present, reach, hr,
    hspawned⟩

end ToolHost.Cli

import Mathlib
import ToolHost.Proofs.SlashCommands
import ToolHost.Proofs.TypedLines
import ToolHost.Proofs.Unread

/-!
# An interactive run

When a run in which the user talks to a session has ended, no process of any session runs, whatever
came of it. Where nothing went wrong around the session, what was written to its process is what the
user typed up to the end, line by line, and what stands behind the end was not even read. It takes a
name that can be shown: where the greeting breaks down over it, the started session gets no line.
-/
namespace ToolHost

open Machine (Path)

/-- What was written line by line is what was typed, and there is nothing else. -/
theorem stdin_of_written {ws : List Write} {pid : Pid} {lines : List String}
    (h : written ws = lines.map fun line => (pid, pieceOf line)) :
    stdin pid ws = lines.flatMap pieceOf ∧ ∀ x ∈ ws, x.pid = pid := by
  have all : ∀ x ∈ ws, x.pid = pid := by
    intro x hx
    have mem : (x.pid, x.piece) ∈ written ws :=
      List.mem_map.mpr ⟨x, List.mem_reverse.mpr hx, rfl⟩
    rw [h] at mem
    obtain ⟨line, -, same⟩ := List.mem_map.mp mem
    exact (congrArg Prod.fst same).symm
  refine ⟨?_, all⟩
  have whole : ws.reverse.filter (·.pid = pid) = ws.reverse :=
    List.filter_eq_self.mpr fun x hx => decide_eq_true (all x (List.mem_reverse.mp hx))
  calc stdin pid ws = ws.reverse.flatMap (·.piece) := by rw [stdin, whole]
    _ = (written ws).flatMap Prod.snd := by rw [written, List.flatMap_map]
    _ = lines.flatMap pieceOf := by rw [h, List.flatMap_map]

/-- Whether a deed is fair. -/
def Deed.isFair (name : SessionName) (d : Deed) : Bool :=
  (match d.action.call?, (d.house.room name).recorded with
    | some (_, n, .send _), some pid => n != name ||
        !((d.house.room name).child pid).hasEnded && ((d.house.room name).child pid).traits.hasInput
    | _, _ => true) &&
  match d.action.session?, (d.house.act d.action).returned with
  | none, some (_, .error (.breakdown _)) => false
  | _, _ => true

theorem Deed.fair_of_isFair {name : SessionName} {d : Deed} (fair : d.isFair name) :
    d.Fair name := by
  obtain ⟨alive, safe⟩ := Bool.and_eq_true_iff.mp fair
  refine ⟨fun id line sends pid recorded => ?_, fun aside id b returned => ?_⟩
  · rw [sends, recorded] at alive
    simpa using alive
  · rw [aside, returned] at safe
    cases safe

/-- Whether a call of a name has given a session. -/
def hasGiven (name : SessionName) (request : Session.Request) (v : Session.View) :
    List Deed → Bool
  | [] => false
  | d :: ds => d.endsWith ds name request v || hasGiven name request v ds

theorem exists_of_hasGiven {name : SessionName} {request : Session.Request} {v : Session.View}
    {ds : List Deed} (given : hasGiven name request v ds) :
    ∃ id, (id, name, request) ∈ begun ds ∧ Returned ds name id (.ok (.session v)) := by
  induction ds with
  | nil => cases given
  | cons d ds ih =>
    rcases Bool.or_eq_true_iff.mp given with ends | given
    · obtain ⟨id, b, ha, began, returned⟩ := Deed.ends_of_endsWith ends
      exact ⟨id, began, d, List.mem_cons_self, b, ha, returned⟩
    · obtain ⟨id, began, back⟩ := ih given
      exact ⟨id, by rw [begun_cons]; exact List.mem_append_right _ began,
        back.mono (List.subset_cons_self d ds)⟩

end ToolHost

namespace ToolHost.Cli

open CommandLine (Invocation)
open Conduct Prompt Routine
open Machine (Host Path)
open Terminal.Markup (render)

variable {name : SessionName} {sessionName : Option String}

/-- Where the user can be greeted, what is typed to the chosen session is delivered. -/
theorem fares_interact {w : Work}
    (chosen : chosenName w.settings.session.defaultName sessionName = .scalar name)
    (others : ∀ x ∈ heeded w.inputs, entersSessionCommand x = false)
    (greets : ∃ cs, render (greeting name.written) = .ok cs) (m : Instant (Deed.Fair name))
    (done : m.done = []) (rooms : m.house.rooms = []) :
    (interact w sessionName).run.Fares
      (fun m' _ => m'.Delivered name w.dir (plainLines w.inputs)) m := by
  have steps : (interact w sessionName).run =
      .alter (fun h => { h with commands := standardCommands }) (ExceptT.run do
        let h ← Conduct.house
        Conduct.ofExcept
          ((checkHistory h.host w.settings.session.historyFile).mapError .breakdown)
        Prompt.run ⟨chosenName w.settings.session.defaultName sessionName, w.dir,
          ⟨w.settings.session.defaultName, w.dir, w.settings.tool.sourceUrl⟩⟩ w.inputs
        return 0) := rfl
  rw [steps, chosen]
  intro m₁ altered
  have fresh : begun m₁.done = [] := by
    obtain ⟨es, after, none⟩ := altered.after
    rw [after, done, List.append_nil, none]
  have ends {m' : Instant (Deed.Fair name)}
      (delivered : m'.Delivered name w.dir (plainLines w.inputs)) (r : Except Trouble Int) :
      (Routine.done r).Fares
        (fun m' _ => m'.Delivered name w.dir (plainLines w.inputs)) m' :=
    fun k later => later.stops.delivered delivered
  rw [run_bind, run_house]
  change Routine.Fares _ (ExceptT.run do
    Conduct.ofExcept
      ((checkHistory m₁.house.host w.settings.session.historyFile).mapError .breakdown)
    Prompt.run ⟨.scalar name, w.dir,
      ⟨w.settings.session.defaultName, w.dir, w.settings.tool.sourceUrl⟩⟩ w.inputs
    return 0) m₁
  rw [run_bind, run_ofExcept, bind_done]
  cases (checkHistory m₁.house.host w.settings.session.historyFile).mapError Trouble.breakdown with
  | error t =>
    refine ends (fun id v began => ?_) _
    rw [fresh] at began
    cases began
  | ok u =>
    rw [onward_ok, run_bind]
    refine Fares.bind ((fares_run rfl others greets m₁ fresh ?_ ?_).mono fun m₂ r delivered => ?_)
    · rw [altered.house_eq]
      exact rooms
    · rw [altered.house_eq]
    · cases r <;> exact ends delivered _

/-- When a run in which the user talks to a session has ended, all processes of all sessions have.
Where the name of the session can be shown, no command about sessions is entered, every line finds
the process alive and no other reply breaks down, what was written to the process is what the user
typed, line by line, up to where the user has quit or to the end, and nothing was written elsewhere.
What the user enters after having quit makes no difference. -/
theorem interactive_run {allowed : Action → Prop} {host : Host} {i : Invocation}
    {sessionName : Option String} {inputs : List Input} {p : Prepared} {dir : Path}
    {settings : Config.Settings}
    (prepared : (prepare host i (.repl sessionName) inputs).outcome = .ok p)
    (directory : projectDirectory host i.directory = .ok dir)
    (configured : (Config.build host (some dir.text)).outcome = .ok settings)
    {w : World (Except Trouble Int)}
    (reach : World.Reaches allowed (.opening p.routine.run p.house) w) {r : Except Trouble Int}
    (result : w.result? = some r) :
    (∀ n, ∀ pid ∈ (w.house.room n).pids, ((w.house.room n).child pid).hasEnded) ∧
    (∀ name, chosenName settings.session.defaultName sessionName = .scalar name →
      (∃ cs, render (greeting name.written) = .ok cs) →
      (∀ x ∈ heeded inputs, entersSessionCommand x = false) → (∀ d ∈ w.done, d.Fair name) →
      ∀ id v, (id, name, .start dir) ∈ begun w.done →
        Returned w.done name id (.ok (.session v)) →
        stdin v.pid (writes w.house.trace) = (plainLines inputs).flatMap pieceOf ∧
          ∀ x ∈ writes w.house.trace, x.pid = v.pid) ∧
    ∀ before quit left other, inputs = before ++ quit :: left → leaves quit →
      ∃ q t, (prepare host i (.repl sessionName) (before ++ quit :: other)).outcome = .ok q ∧
        World.Reaches allowed (.opening q.routine.run q.house) { w with standing := t } ∧
        ({ w with standing := t } : World _).result? = some r := by
  obtain ⟨dir', settings', left, location, hdir, hsettings, hhouse, hroutine⟩ := prepare_ok prepared
  obtain rfl := Except.ok.inj (directory.symm.trans hdir)
  obtain rfl := Except.ok.inj (configured.symm.trans hsettings)
  have rooms : p.house.rooms = [] := by rw [hhouse]
  have roster : p.house.roster = [] := by rw [hhouse]
  have trace : p.house.trace = [] := by rw [hhouse]
  refine ⟨fun n => ?_, fun name chosen greets others fair id v began back => ?_,
    fun before quit left other split quits => ?_⟩
  · have fares : w.Fares fun (m : Instant fun _ => True) _ => AllClosed (fun _ => True) m := by
      refine .of_reaches rooms roster trace (fun m _ _ => ?_) reach fun _ _ => trivial
      rw [hroutine]
      exact fares_exitCode (fun _ _ _ _ => trivial) ((Fares.suffix _ m).mono fun _ _ _ => trivial)
    obtain ⟨m, -, house, -, closed⟩ := fares.ends result
    exact house ▸ (closed n).over.2
  · have fares : w.Fares fun (m : Instant (Deed.Fair name)) _ =>
        AllClosed (fun m => m.Delivered name dir (plainLines inputs)) m := by
      refine .of_reaches rooms roster trace (fun m done house => ?_) reach fair
      rw [hroutine]
      refine fares_exitCode (fun _ _ stops delivered => stops.delivered delivered) ?_
      refine fares_interact (w := ⟨withVerbosity settings i.verbosity, dir, inputs⟩) ?_ others
        greets m done (house ▸ rooms)
      rwa [withVerbosity_session]
    obtain ⟨m, done, house, delivered, -⟩ := fares.ends result
    have written := delivered id v (done ▸ began) (done ▸ back)
    rw [house] at written
    exact stdin_of_written written
  · subst split
    obtain ⟨s, d, routine, prepares⟩ := prepare_inputs prepared
    obtain ⟨t, reaches, like⟩ := World.Reaches.like
      (routine ▸ like_exitCode quits before left other sessionName) reach
    exact ⟨_, t, prepares _, reaches, World.result?_of_like like result⟩

/-! ## Runs to the end -/

/-- Whether a script can be followed in a run of the program, and what it leads to is as said. -/
def comesTo (host : Host) (i : Invocation) (m : CommandLine.Mode) (inputs : List Input)
    (script : List World.Choice) (holds : World (Except Trouble Int) → Bool) : Bool :=
  (prepare host i m inputs).outcome.toOption.any fun p =>
    ((World.opening p.routine.run p.house).follow script).any holds

theorem exists_of_comesTo {host : Host} {i : Invocation} {m : CommandLine.Mode}
    {inputs : List Input} {script : List World.Choice} {holds : World (Except Trouble Int) → Bool}
    (comes : comesTo host i m inputs script holds) :
    ∃ p w, (prepare host i m inputs).outcome = .ok p ∧
      World.Reaches (fun _ => True) (.opening p.routine.run p.house) w ∧ holds w := by
  obtain ⟨p, hp, comes⟩ := (Option.any_eq_true _ _).mp comes
  obtain ⟨w, hw, holds⟩ := (Option.any_eq_true _ _).mp comes
  exact ⟨p, w, ok_of_toOption hp, World.reaches_of_follow hw, holds⟩

/-- Two lines with an interruption between them, and one behind the end. -/
def entered : List Input := [.line "a", .interrupt, .line "b", .line "/quit", .line "c"]

/-- The session is started, takes two lines and is stopped. -/
def visit : List World.Choice :=
  [.routine 1, .job (.room repl (.resume 1)) ⟨7, {}⟩, .routine 2, .routine 3, .routine 4,
    .job (.room repl (.relay 7)) ⟨8, {}⟩, .job (.room repl (.resume 4)) ⟨8, {}⟩, .routine 5]

/-- The session that the start gives. -/
def visited : Session.View := ⟨repl, 7, work, true, none⟩

/-- A name that is no markup. -/
def unshown : SessionName := .text "[/x]"

/-- The session is started and stopped. -/
def calledOff : List World.Choice :=
  [.routine 1, .job (.room unshown (.resume 1)) ⟨7, {}⟩, .routine 2,
    .job (.room unshown (.relay 7)) ⟨8, {}⟩, .job (.room unshown (.resume 2)) ⟨8, {}⟩, .routine 3]

/-- Two lines reach the process, and nothing else does. -/
theorem interactive_run_two_lines : ∃ p w,
    (prepare stocked elsewhere (.repl none) entered).outcome = .ok p ∧
    World.Reaches (fun _ => True) (.opening p.routine.run p.house) w ∧
    w.result? = some (.ok 0) ∧
    stdin 7 (writes w.house.trace) = pieceOf "a" ++ pieceOf "b" ∧
    (∀ x ∈ writes w.house.trace, x.pid = 7) ∧
    (∀ n, ∀ pid ∈ (w.house.room n).pids, ((w.house.room n).child pid).hasEnded) ∧
    ∃ q t, (prepare stocked elsewhere (.repl none)
        [.line "a", .interrupt, .line "b", .line "/quit"]).outcome = .ok q ∧
      World.Reaches (fun _ => True) (.opening q.routine.run q.house) { w with standing := t } ∧
      ({ w with standing := t } : World _).result? = some (.ok 0) := by
  obtain ⟨p, w, prepared, reach, facts⟩ := exists_of_comesTo
    (show comesTo stocked elsewhere (.repl none) entered visit (fun w =>
      decide (w.result? = some (.ok 0)) && w.done.all (·.isFair repl) &&
        hasGiven repl (.start work) visited w.done) by decide +kernel)
  simp only [Bool.and_eq_true, decide_eq_true_eq, List.all_eq_true] at facts
  obtain ⟨⟨result, fair⟩, given⟩ := facts
  obtain ⟨id, began, back⟩ := exists_of_hasGiven given
  obtain ⟨settings, configured, found⟩ := defaultName_stocked
  obtain ⟨ended, delivers, unread⟩ := interactive_run prepared rfl configured reach result
  obtain ⟨written, only⟩ := delivers repl found
    (render_of_isSome (by decide +kernel)) (by decide +kernel)
    (fun d hd => Deed.fair_of_isFair (fair d hd)) id visited began back
  have lines : (plainLines entered).flatMap pieceOf = pieceOf "a" ++ pieceOf "b" := by
    decide +kernel
  exact ⟨p, w, prepared, reach, result, written.trans lines, only, ended,
    unread [.line "a", .interrupt, .line "b"] (.line "/quit") [.line "c"] [] rfl
      (by decide +kernel)⟩

/-- A name that cannot be shown ends the run before a line is read, though the session was started
and its process is alive: what was typed is not delivered. -/
theorem interactive_run_unshown : ∃ p w id v,
    (prepare stocked elsewhere (.repl (some "[/x]")) [.line "hello"]).outcome = .ok p ∧
    World.Reaches (fun _ => True) (.opening p.routine.run p.house) w ∧
    w.result? = some (.error (.breakdown .badMarkup)) ∧
    (∀ x ∈ heeded [.line "hello"], entersSessionCommand x = false) ∧
    (∀ d ∈ w.done, d.Fair unshown) ∧ (id, unshown, .start work) ∈ begun w.done ∧
    Returned w.done unshown id (.ok (.session v)) ∧
    plainLines [.line "hello"] = ["hello"] ∧ writes w.house.trace = [] := by
  obtain ⟨p, w, prepared, reach, facts⟩ := exists_of_comesTo
    (show comesTo stocked elsewhere (.repl (some "[/x]")) [.line "hello"] calledOff (fun w =>
      decide (w.result? = some (.error (.breakdown .badMarkup))) &&
        w.done.all (·.isFair unshown) &&
        hasGiven unshown (.start work) ⟨unshown, 7, work, true, none⟩ w.done &&
        decide (writes w.house.trace = [])) by decide +kernel)
  simp only [Bool.and_eq_true, decide_eq_true_eq, List.all_eq_true] at facts
  obtain ⟨⟨⟨result, fair⟩, given⟩, silent⟩ := facts
  obtain ⟨id, began, back⟩ := exists_of_hasGiven given
  exact ⟨p, w, id, _, prepared, reach, result, by decide +kernel,
    fun d hd => Deed.fair_of_isFair (fair d hd), began, back, by decide +kernel, silent⟩

end ToolHost.Cli

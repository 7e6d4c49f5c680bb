import Mathlib
import ToolHost.Proofs.Conversation
import ToolHost.Proofs.Handover
import ToolHost.Proofs.Scripts

/-!
# Slash commands act on the session that the user types to

Three parts of the program each hold the name of a session: the prompt, the commands behind a slash
and the rooms. Where the prompt and the commands hold the same one, a line reaches the process that
the last start or restart has given, after a stop nothing runs, and at most one process of all
sessions runs at every moment. Where the user has chosen another session, the commands act on one
that the lines do not go to.
-/
namespace ToolHost

open Machine (Path)
open Prompt (Conversation TalkEnds)

/-! ## Between the commands -/

/-- After a start or a restart has given a session, every line goes to its process, until something
else is asked of the name. -/
def LinesFollow (name : SessionName) (ds : List Deed) : Prop :=
  ∀ later e mid d earlier, ds = later ++ e :: (mid ++ d :: earlier) →
    ∀ request v, d.Ends earlier name request (.ok (.session v)) → request.launches →
      (∀ i q, (i, name, q) ∈ begun mid → q.isLine) →
      ∀ id line, e.action.call? = some (id, name, .send line) → e.Hands name id line v.pid

/-- A stop that has come to its end has not failed, and every line is refused until a start or a
restart of the name begins. -/
def StopsHold (name : SessionName) (ds : List Deed) : Prop :=
  ∀ later d earlier, ds = later ++ d :: earlier → ∀ reply, d.Ends earlier name .stop reply →
    (∀ i q, (i, name, q) ∈ begun later → q.launches = false) →
    reply = .ok .nothing ∧ ∀ e ∈ later, ∀ id line, e.action.call? = some (id, name, .send line) →
      e.Refuses name id

/-- The last that was asked of a name, lines apart, is a stop, and it has come to its end. -/
def Stopped (name : SessionName) (ds : List Deed) : Prop :=
  ∃ later d earlier reply, ds = later ++ d :: earlier ∧ d.Ends earlier name .stop reply ∧
    ∀ i q, (i, name, q) ∈ begun later → q.launches = false

section Between

variable {ds : List Deed} {h : House} {name n : SessionName} {dir : Path}
  {inputs : List Prompt.Input}

theorem InTurn.linesFollow (inTurn : InTurn ds) (run : Run ds h) : LinesFollow name ds := by
  rintro later e mid d earlier rfl request v ends launches lines id line sends
  have whole : Run (later ++ e :: (mid ++ d :: earlier)) h := run
  obtain ⟨before, call, birth⟩ := whole.back
  exact inTurn.back.hands (before.act e.action call birth) ends launches lines sends

theorem InTurn.stopsHold (inTurn : InTurn ds) (run : Run ds h) (calm : Calm ds) :
    StopsHold name ds := by
  rintro later d earlier rfl reply ends none
  have quiet : Calm (d :: earlier) := fun x hx => calm x (List.mem_append_right _ hx)
  refine ⟨(inTurn.back.closed run quiet ends none).1, fun e he id line sends => ?_⟩
  obtain ⟨us, vs, rfl⟩ := List.append_of_mem he
  have whole : Run (us ++ e :: (vs ++ d :: earlier)) h := by simpa using run
  obtain ⟨before, call, birth⟩ := whole.back
  have turns : InTurn (us ++ e :: (vs ++ d :: earlier)) := by simpa using inTurn
  have closed := inTurn.back.closed before quiet ends fun i q hq => none i q (by
    rw [begun_append, begun_cons]
    simp [hq])
  refine before.refuses (turns.back.callers before sends) sends fun pid goes => ?_
  have recorded := goes.recorded
  rw [closed.2.vacant.1] at recorded
  cases recorded

theorem Stopped.closed (stopped : Stopped name ds) (inTurn : InTurn ds) (run : Run ds h)
    (calm : Calm ds) : h.Closed name := by
  obtain ⟨later, d, earlier, reply, rfl, ends, none⟩ := stopped
  exact (inTurn.back.closed run (fun x hx => calm x (List.mem_append_right _ hx)) ends none).2

/-- Other sessions than the user's own are closed at every moment. -/
theorem Run.closed_of_other (run : Run ds h) (talk : Conversation name dir inputs (demands ds))
    (other : n ≠ name) : h.Closed n :=
  run.closed_of_harmless fun _ _ hq => talk.others other (mem_demands hq) ▸ rfl

end Between

end ToolHost

namespace ToolHost.Cli

open CommandLine (Invocation)
open Machine (Host Path)
open Prompt (TalkEnds)

/-! ## Scripts for the program -/

/-- Whether a script can be followed in a run of the program, and what is said of the last that was
done, of what was done before it, and of the house in the end, holds. -/
def plays (host : Host) (i : Invocation) (m : CommandLine.Mode) (inputs : List Prompt.Input)
    (script : List World.Choice) (holds : Deed → Deed → List Deed → House → Bool) : Bool :=
  (prepare host i m inputs).outcome.toOption.any fun p =>
    ((World.opening p.routine.run p.house).follow script).any fun w =>
      match w.done with
      | e :: d :: earlier => holds e d earlier w.house
      | _ => false

theorem exists_of_plays {host : Host} {i : Invocation} {m : CommandLine.Mode}
    {inputs : List Prompt.Input} {script : List World.Choice}
    {holds : Deed → Deed → List Deed → House → Bool}
    (played : plays host i m inputs script holds) :
    ∃ p w e d earlier, (prepare host i m inputs).outcome = .ok p ∧
      World.Reaches (fun _ => True) (.opening p.routine.run p.house) w ∧
      w.done = e :: d :: earlier ∧ holds e d earlier w.house := by
  obtain ⟨p, hp, played⟩ := (Option.any_eq_true _ _).mp played
  obtain ⟨w, hw, played⟩ := (Option.any_eq_true _ _).mp played
  refine ⟨p, w, ?_⟩
  split at played
  · next e d earlier split =>
    exact ⟨e, d, earlier, ok_of_toOption hp, World.reaches_of_follow hw, split, played⟩
  · cases played

/-! ## In the whole program -/

/-- The user talks to the session that the commands are about. What is asked of sessions is what the
lines say, one thing after another, and in a run that goes well what all of them say. A line goes to
the process that the last start or restart has given, where that runs, and is refused after a stop;
then no session is live and all processes have ended. At every moment at most one process of all
sessions runs. -/
theorem slash_commands_own_session {allowed : Action → Prop} {host : Host} {i : Invocation}
    {sessionName : Option String} {inputs : List Prompt.Input} {p : Prepared} {dir : Path}
    {settings : Config.Settings} {name : SessionName}
    (prepared : (prepare host i (.repl sessionName) inputs).outcome = .ok p)
    (directory : projectDirectory host i.directory = .ok dir)
    (configured : (Config.build host (some dir.text)).outcome = .ok settings)
    (own : chosenName settings.session.defaultName sessionName = settings.session.defaultName)
    (named : ∀ n, settings.session.defaultName = .scalar n → n = name)
    {w : World (Except Trouble Int)}
    (reach : World.Reaches allowed (.opening p.routine.run p.house) w) :
    TalkEnds name dir inputs (demands w.done) (w.result? = some (.ok 0)) ∧ InTurn w.done ∧
      LinesFollow name w.done ∧ StopsHold name w.done ∧
      (Stopped name w.done → ∀ n, (w.house.room n).live? = none ∧
        ∀ pid ∈ (w.house.room n).pids, ((w.house.room n).child pid).hasEnded) ∧
      ∀ m n p q, (w.house.room m).Runs p → (w.house.room n).Runs q → m = n ∧ p = q := by
  obtain ⟨dir', settings', left, location, hdir, hsettings, hhouse, hroutine⟩ := prepare_ok prepared
  obtain rfl := Except.ok.inj (directory.symm.trans hdir)
  obtain rfl := Except.ok.inj (configured.symm.trans hsettings)
  have steady : w.Steady := .of_reaches (by rw [hhouse]) (by rw [hhouse]) (by rw [hhouse]) reach
  rw [← withVerbosity_session settings i.verbosity] at own named
  rw [hroutine] at reach
  have keeps : w.Keeps (Prompt.Conversation name dir inputs)
      (fun _ ds r => TalkEnds name dir inputs ds (r = .ok 0)) := by
    refine .of_reaches (.inl (.refl [])) ?_ reach
    rw [hhouse]
    exact keeps_exitCode (w := ⟨withVerbosity settings i.verbosity, dir, inputs⟩)
      (s := ({}, false)) own named
  have closed {n : SessionName} (other : n ≠ name) : w.house.Closed n :=
    steady.run.closed_of_other keeps.right other
  refine ⟨⟨keeps.right, fun well => (keeps.ends well).2 rfl⟩, steady.inTurn,
    steady.inTurn.linesFollow steady.run, steady.inTurn.stopsHold steady.run steady.calm,
    fun stopped n => ?_, fun m n p q hp hq => ?_⟩
  · by_cases same : n = name
    · exact same ▸ (stopped.closed steady.inTurn steady.run steady.calm).over
    · exact (closed same).over
  · have of_runs {n : SessionName} {p : Pid} (runs : (w.house.room n).Runs p) : n = name := by
      by_contra other
      exact (closed other).vacant.2 p (.inl runs)
    obtain rfl := of_runs hp
    obtain rfl := of_runs hq
    exact ⟨rfl, (steady.run.manned steady.calm n).alone p q hp hq⟩

/-- The session that the program is configured to start. -/
def repl : SessionName := .text "repl"

def work : Path := ⟨.root, ["work"]⟩

/-- A restart, and then a line. -/
def typed : List Prompt.Input := [.line "/repl-restart", .line "hello"]

/-- The first process ends when its input does, and the second one takes its place. -/
def relief : List World.Choice :=
  [.routine 1, .job (.room repl (.resume 1)) ⟨7, {}⟩,
    .routine 2, .job (.room repl (.relay 7)) ⟨8, {}⟩, .event (.room repl (.closeOutput 7)),
    .event (.room repl (.exit 7 0)), .job (.room repl (.relay 7)) ⟨8, {}⟩,
    .job (.room repl (.notice 2)) ⟨8, {}⟩, .job (.room repl (.resume 2)) ⟨8, {}⟩,
    .job (.room repl (.resume 2)) ⟨8, {}⟩, .routine 3]

/-- Both processes are created, one for each session. -/
def stray : List World.Choice :=
  [.routine 1, .job (.room (.text "other") (.resume 1)) ⟨7, {}⟩,
    .routine 2, .job (.room repl (.resume 2)) ⟨8, {}⟩, .routine 3]

/-- The session that the restart gives. -/
def successor : Session.View := ⟨repl, 8, work, true, none⟩

/-- Whether the configured session has the given name. -/
def isDefaultName (name : SessionName) (settings : Config.Settings) : Bool :=
  match settings.session.defaultName with
  | .scalar n => n = name
  | _ => false

theorem isDefaultName_iff {name : SessionName} {settings : Config.Settings} :
    isDefaultName name settings = true ↔ settings.session.defaultName = .scalar name := by
  unfold isDefaultName
  cases settings.session.defaultName <;> simp

theorem defaultName_stocked : ∃ settings,
    (Config.build stocked (some "/work")).outcome = .ok settings ∧
      settings.session.defaultName = .scalar repl := by
  have found : (Config.build stocked (some "/work")).outcome.toOption.any (isDefaultName repl) := by
    decide +kernel
  obtain ⟨settings, ok, named⟩ := (Option.any_eq_true _ _).mp found
  exact ⟨settings, ok_of_toOption ok, isDefaultName_iff.mp named⟩

/-- In a run in which the user restarts the session and then types a line, that line is written to
the process of the restart, which is the only one that runs. -/
theorem slash_commands_own_session_relief : ∃ p w e d earlier,
    (prepare stocked elsewhere (.repl none) typed).outcome = .ok p ∧
    World.Reaches (fun _ => True) (.opening p.routine.run p.house) w ∧
    w.done = e :: d :: earlier ∧
    d.Ends earlier repl (.restart work) (.ok (.session successor)) ∧
    e.action.call? = some (3, repl, .send "hello") ∧ e.Hands repl 3 "hello" 8 ∧
    writes e.news = [⟨3, 8, pieceOf "hello"⟩] ∧
    ∀ n q, (w.house.room n).Runs q → n = repl ∧ q = 8 := by
  obtain ⟨p, w, e, d, earlier, prepared, reach, split, facts⟩ := exists_of_plays
    (show plays stocked elsewhere (.repl none) typed relief (fun e d earlier h =>
      d.endsWith earlier repl (.restart work) successor &&
        decide (e.action.call? = some (3, repl, .send "hello") ∧
          writes e.news = [⟨3, 8, pieceOf "hello"⟩] ∧ 8 ∈ (h.room repl).pids ∧
          ((h.room repl).child 8).code = none)) by decide +kernel)
  obtain ⟨ends, facts⟩ := Bool.and_eq_true_iff.mp facts
  obtain ⟨sends, written, mem, runs⟩ := of_decide_eq_true facts
  obtain ⟨settings, configured, found⟩ := defaultName_stocked
  have named : ∀ n, settings.session.defaultName = .scalar n → n = repl :=
    fun n h => Value.scalar.inj (h.symm.trans found)
  obtain ⟨-, -, follow, -, -, alone⟩ :=
    slash_commands_own_session prepared rfl configured rfl named reach
  have ends := Deed.ends_of_endsWith ends
  exact ⟨p, w, e, d, earlier, prepared, reach, split, ends, sends,
    follow [] e [] d earlier split _ _ ends rfl (by simp [begun]) 3 "hello" sends, written,
    fun n q runs' => alone n repl q 8 runs' (((w.house.room repl).runs_iff 8).mpr ⟨mem, runs⟩)⟩

/-- Where the user has chosen another session, a restart acts on the configured one: it gives a
process beside the one that the user types to, and the next line goes past it. -/
theorem slash_commands_stray : ∃ p w e d earlier,
    (prepare stocked elsewhere (.repl (some "other")) typed).outcome = .ok p ∧
    World.Reaches (fun _ => True) (.opening p.routine.run p.house) w ∧
    w.done = e :: d :: earlier ∧
    d.Ends earlier repl (.restart work) (.ok (.session successor)) ∧
    e.action.call? = some (3, .text "other", .send "hello") ∧
    writes e.news = [⟨3, 7, pieceOf "hello"⟩] ∧
    (w.house.room (.text "other")).Runs 7 ∧ (w.house.room repl).Runs 8 := by
  obtain ⟨p, w, e, d, earlier, prepared, reach, split, facts⟩ := exists_of_plays
    (show plays stocked elsewhere (.repl (some "other")) typed stray (fun e d earlier h =>
      d.endsWith earlier repl (.restart work) successor &&
        decide (e.action.call? = some (3, .text "other", .send "hello") ∧
          writes e.news = [⟨3, 7, pieceOf "hello"⟩] ∧
          (7 ∈ (h.room (.text "other")).pids ∧ ((h.room (.text "other")).child 7).code = none) ∧
          8 ∈ (h.room repl).pids ∧ ((h.room repl).child 8).code = none)) by decide +kernel)
  obtain ⟨ends, facts⟩ := Bool.and_eq_true_iff.mp facts
  obtain ⟨sends, written, there, here⟩ := of_decide_eq_true facts
  exact ⟨p, w, e, d, earlier, prepared, reach, split, Deed.ends_of_endsWith ends, sends, written,
    ((w.house.room (.text "other")).runs_iff 7).mpr there,
    ((w.house.room repl).runs_iff 8).mpr here⟩

end ToolHost.Cli

import Mathlib
import ToolHost.Proofs.OneShot.Shop
import ToolHost.Proofs.Session.Reasons
import ToolHost.Proofs.Session.Solo

/-!
# Launches that fail

A start, a restart or a single command ends with a process, or is to fail with a report: that the
artifact is missing, that the words of the command cannot be told apart, or that the process could
not be created. Two kinds of trouble are not reported so: what the system says when it cannot even
tell whether the artifact is there, and a text in the command, the directory or the variables that
it cannot take.
-/
namespace ToolHost

open Machine (Path Variables)

/-- A process that was to be created, and why it was not if it was not. -/
structure Attempt where
  argv : List String
  dir : Path
  fault? : Option SpawnFault

namespace Attempt

/-- An attempt with what came of it. -/
def of {α : Type} (argv : List String) (dir : Path) : Except SpawnFault α → Attempt
  | .ok _ => ⟨argv, dir, none⟩
  | .error fault => ⟨argv, dir, some fault⟩

/-- Whether the system cannot take a text of an attempt: a null character can stand nowhere, and
an equals sign in no name of a variable. -/
def IsUnfit (a : Attempt) (environment : Variables) : Prop :=
  (∃ word ∈ a.argv, '\x00' ∈ word.toList) ∨ '\x00' ∈ a.dir.text.toList ∨
    ∃ x ∈ environment, '\x00' ∈ x.1.toList ∨ '\x00' ∈ x.2.toList ∨ '=' ∈ x.1.toList

end Attempt

/-- The variables of a child. -/
def House.childVariables (h : House) : Variables :=
  h.host.environment.update h.plan.environment

/-- The runtime and the name of the artifact are texts. -/
structure House.IsTextual (h : House) : Prop where
  runtime : h.plan.runtime.isSome
  artifactName : ∃ n, h.location.artifactName = .scalar (.text n)

namespace Deed

variable {d : Deed} {ds : List Deed} {h : House} {reply : Except Trouble Reply}

/-- The attempt whose outcome a call is told. -/
def attempt? (d : Deed) : Option Attempt :=
  match d.action with
  | .room name (.launched id outcome) =>
    ((d.house.room name).attempt? id).map fun (argv, dir) => .of argv dir outcome
  | .shot (.launched id outcome _) =>
    (d.house.shots.pending.find? (·.id = id)).map fun p => .of p.argv p.dir outcome
  | _ => none

/-- The artifact that is to be run, if it is known where it should be. -/
def artifact? (d : Deed) : Option Path :=
  match d.action with
  | .begin _ (.oneShot artifact _ _) => some artifact
  | _ => d.house.location.artifactPath.toOption

/-- The system answers an attempt with a process, an error of its own, or a complaint about a text
that it really cannot take. -/
def IsLawful (d : Deed) : Prop :=
  ∀ a, d.attempt? = some a → a.fault? ≠ some .interrupted ∧
    (a.fault? = some .badValue → a.IsUnfit d.house.childVariables)

/-- The ways in which a launch is to end. -/
inductive Reports (d : Deed) : Except Trouble Reply → Prop
  | session (s : Session.View) : Reports d (.ok (.session s))
  | launched (l : OneShot.Launch) : Reports d (.ok (.launched l))
  | missing (gone : ∀ p, d.artifact? = some p → Config.Place.exists? d.house.host p = .ok false) :
      Reports d (.error (.failure (.artifactNotFound (d.artifact?.map (·.text)))))
  | unparsable {id : CallId} {artifact dir : Path} {text : String} {start : List String}
      {e : Shell.WordsError} (asked : d.action = .begin id (.oneShot artifact dir text))
      (command : d.house.plan.argv artifact.text [] = .ok start)
      (unclosed : Shell.split text = .error e) :
      Reports d (.error (.failure (.spawn (Shell.join start ++ " " ++ text)
        ("Cannot parse subcommand " ++ Text.quoted text ++ ": " ++ e.message))))
  | refused {a : Attempt} {code : Machine.Errno} {file : Option String}
      (attempt : d.attempt? = some a) (fault : a.fault? = some (.system code file)) :
      Reports d (.error (.failure (.spawn (Shell.join a.argv)
        (SpawnFault.reason code file (a.argv.headD "") a.dir.text))))

/-- The ways in which a launch ends without a report. -/
inductive Escapes (d : Deed) : Breakdown → Prop
  /-- The system cannot tell whether the artifact is there. -/
  | untold {p : Path} {code : Int} (artifact : d.artifact? = some p)
      (refused : Config.Place.exists? d.house.host p = .error (.system code)) :
      Escapes d (.system code)
  /-- A text cannot be taken by the system. -/
  | unfit {a : Attempt} (attempt : d.attempt? = some a) (fault : a.fault? = some .badValue)
      (unfit : a.IsUnfit d.house.childVariables) : Escapes d .badValue
  /-- The call was told to give up. -/
  | gaveUp {name : SessionName} {b : Session.Action} {c : Session.Caller}
      (room : d.action.session? = some (name, b)) (waits : c ∈ (d.house.room name).callers)
      (told : c.wake = .interrupted) : Escapes d .interrupted

/-- What was done ended a call that was to launch a process. -/
inductive Concludes (ds : List Deed) (d : Deed) (reply : Except Trouble Reply) : Prop
  | session {name : SessionName} {b : Session.Action} {id : CallId} {q : Session.Request}
      (room : d.action.session? = some (name, b)) (asked : (id, name, q) ∈ begun ds)
      (launches : q.launches) (returned : d.returned? = some (id, reply))
  | asked {id : CallId} {artifact dir : Path} {text : String}
      (action : d.action = .begin id (.oneShot artifact dir text))
      (returned : d.returned? = some (id, reply))
  | launched {id : CallId} {outcome : Except SpawnFault Pid} {extra : Variables}
      (action : d.action = .shot (.launched id outcome extra))
      (returned : d.returned? = some (id, reply))

/-- A reply that is a report, or one of the breakdowns that escape. -/
def Accounts (d : Deed) (reply : Except Trouble Reply) : Prop :=
  d.Reports reply ∨ ∃ b, d.Escapes b ∧ reply = .error (.breakdown b)

/-! ## The artifact -/

theorem exists?_error {host : Machine.Host} {p : Path} {b : Breakdown}
    (h : Config.Place.exists? host p = .error b) : ∃ code, b = .system code := by
  unfold Config.Place.exists? at h
  split at h
  · cases h
  · cases h
    exact ⟨_, rfl⟩

/-- Where the artifact is not found to be there, this is reported unless it cannot be told. -/
theorem accounts_artifact {p : Path} (artifact : d.artifact? = some p) {t : Trouble}
    (lacks : d.house.artifact p = .error t) : d.Accounts (.error t) := by
  unfold House.artifact at lacks
  split at lacks
  · rename_i b untold
    obtain ⟨code, rfl⟩ := exists?_error untold
    cases lacks
    exact .inr ⟨_, .untold artifact untold, rfl⟩
  · cases lacks
  · rename_i gone
    cases lacks
    have missing := Reports.missing (d := d) fun q hq => by
      obtain rfl : p = q := Option.some.inj (artifact.symm.trans hq)
      exact gone
    rw [artifact] at missing
    exact .inl missing

/-- There is always a command if the artifact is there. -/
theorem accounts_command (textual : d.house.IsTextual)
    (artifact : d.artifact? = d.house.location.artifactPath.toOption) {t : Trouble}
    (lacks : d.house.sessionCommand = .error t) : d.Accounts (.error t) := by
  obtain ⟨n, name⟩ := textual.artifactName
  obtain ⟨runtime, hr⟩ := Option.isSome_iff_exists.mp textual.runtime
  unfold House.sessionCommand at lacks
  cases directory : d.house.location.directory with
  | none =>
    have path : d.house.location.artifactPath = .error (.failure (.artifactNotFound none)) := by
      simp [Location.artifactPath, directory]
    rw [path] at lacks artifact
    cases lacks
    have missing := Reports.missing (d := d) fun q hq => by
      rw [artifact] at hq
      cases hq
    rw [artifact] at missing
    exact .inl missing
  | some dir =>
    have path : d.house.location.artifactPath = .ok (dir.join n) := by
      simp [Location.artifactPath, directory, name]
    rw [path] at lacks artifact
    cases there : d.house.artifact (dir.join n) with
    | error e =>
      simp only [bind, Except.bind, there] at lacks
      cases lacks
      exact accounts_artifact artifact there
    | ok _ => simp [bind, Except.bind, there, Plan.argv, hr, Except.mapError] at lacks

theorem accounts_words (textual : d.house.IsTextual) {id : CallId} {artifact dir : Path}
    {text : String} (asked : d.action = .begin id (.oneShot artifact dir text)) {t : Trouble}
    (lacks : d.house.shotWords artifact text = .error t) : d.Accounts (.error t) := by
  obtain ⟨runtime, hr⟩ := Option.isSome_iff_exists.mp textual.runtime
  unfold House.shotWords at lacks
  cases there : d.house.artifact artifact with
  | error e =>
    rw [there] at lacks
    cases lacks
    exact accounts_artifact (by simp [artifact?, asked]) there
  | ok _ =>
    rw [there] at lacks
    change OneShot.words d.house.plan artifact.text text = .error t at lacks
    unfold OneShot.words at lacks
    cases words : Shell.split text with
    | ok args => simp [words, Plan.argv, hr, Except.mapError] at lacks
    | error e =>
      have command : d.house.plan.argv artifact.text [] =
          .ok (runtime :: d.house.plan.runtimeArgs ++ [artifact.text]) := by
        simp [Plan.argv, hr]
      rw [words, command] at lacks
      cases lacks
      exact .inl (.unparsable asked command words)

/-! ## The process -/

theorem accounts_fault (lawful : d.IsLawful) {a : Attempt} {fault : SpawnFault}
    (attempt : d.attempt? = some a) (same : a.fault? = some fault) :
    d.Accounts (.error (fault.trouble a.argv a.dir.text)) := by
  cases fault with
  | system code file => exact .inl (.refused attempt same)
  | badValue => exact .inr ⟨_, .unfit attempt same ((lawful a attempt).2 same), rfl⟩
  | interrupted => exact absurd same (lawful a attempt).1

theorem accounts_due {name : SessionName} {b : Session.Action} {id : CallId} {e : Session.Ending}
    (lawful : d.IsLawful) (textual : d.house.IsTextual)
    (room : d.action.session? = some (name, b))
    (due : e.Due (d.house.room name) d.house.setting b id) :
    d.Accounts (House.replyOfRoom e) := by
  cases due with
  | session v => exact .inl (.session v)
  | lacking command =>
    refine accounts_command textual ?_ command
    unfold artifact?
    split
    · rename_i action
      rw [action] at room
      cases room
    · rfl
  | refused attempt told =>
    subst told
    refine accounts_fault (a := ⟨_, _, _⟩) lawful ?_ rfl
    cases action : d.action with
    | begin i call => cases call <;> simp [action, Action.session?] at room
    | room n c =>
      rw [action] at room
      cases room
      simp [attempt?, action, attempt, Attempt.of]
    | _ => simp [action, Action.session?] at room
  | abandoned waits gaveUp =>
    exact .inr ⟨_, .gaveUp room (Session.Room.mem_of_caller? waits) gaveUp, rfl⟩

/-! ## Calls that end -/

/-- Whoever asked for a session ends with one, or for a reason. -/
theorem due_of_returned (run : Run ds h) (done : d ∈ ds) {name : SessionName}
    {b : Session.Action} (room : d.action.session? = some (name, b)) {id : CallId}
    {q : Session.Request} (asked : (id, name, q) ∈ begun ds) (launches : q.launches)
    (returned : d.returned? = some (id, reply)) :
    ∃ e : Session.Ending, e.Due (d.house.room name) d.house.setting b id ∧
      House.replyOfRoom e = reply := by
  obtain ⟨e, ended, same⟩ := (d.house.returned_act room).mp returned
  refine ⟨e, ?_, same⟩
  obtain ⟨later, earlier, rfl⟩ := List.append_of_mem done
  obtain ⟨before, call, birth⟩ := run.back
  have c := before.course name
  have fits := c.fits (Run.call_fresh call room) (Run.birth_fresh birth room)
  refine c.sound.due_of_returned d.house.setting_sane fits ended ?_ launches
  rcases c.sound.began_of_returned d.house.setting_sane fits ended with waits | ⟨p, begins⟩
  · obtain ⟨x, mem, rfl⟩ := List.mem_map.mp waits
    have older : (x.id, name, x.request) ∈ begun (later ++ d :: earlier) := by
      have := mem_calls_deedsAt.mp (c.has_call mem)
      simp only [begun, List.filterMap_append, List.filterMap_cons] at this ⊢
      split <;> simp [this]
    exact .inr ⟨x, mem, rfl, (Prod.mk.inj (run.begun_unique older asked)).2⟩
  · have begun : (id, name, p) ∈ begun (later ++ d :: earlier) :=
      List.mem_filterMap.mpr ⟨d, by simp, by simp [Action.call?, room, begins]⟩
    cases run.begun_unique begun asked
    exact .inl begins

theorem Concludes.accounts (run : Run ds h) (done : d ∈ ds) (lawful : d.IsLawful)
    (textual : d.house.IsTextual) (concludes : d.Concludes ds reply) : d.Accounts reply := by
  cases concludes with
  | session room asked launches returned =>
    obtain ⟨e, due, rfl⟩ := due_of_returned run done room asked launches returned
    exact accounts_due lawful textual room due
  | @asked id artifact dir text action returned =>
    have act : d.house.act d.action =
        d.house.actShot (.begin id (d.house.shotWords artifact text) dir) := by rw [action]; rfl
    rw [returned?, act] at returned
    cases words : d.house.shotWords artifact text with
    | error t =>
      rw [words] at returned
      cases returned
      exact accounts_words textual action words
    | ok argv =>
      rw [words] at returned
      cases returned
  | @launched id outcome extra action returned =>
    rw [returned?, action] at returned
    change (d.house.actShot (.launched id outcome extra)).returned = _ at returned
    cases found : d.house.shots.pending.find? (·.id = id) with
    | none => simp [House.actShot, OneShot.Shots.act, OneShot.Shots.launched, found] at returned
    | some p =>
      cases outcome with
      | ok pid =>
        simp only [House.actShot, OneShot.Shots.act, OneShot.Shots.launched, found] at returned
        cases returned
        exact .inl (.launched _)
      | error fault =>
        simp only [House.actShot, OneShot.Shots.act, OneShot.Shots.launched, found] at returned
        cases returned
        refine accounts_fault (a := ⟨p.argv, p.dir, some fault⟩) lawful ?_ rfl
        simp [attempt?, action, found, Attempt.of]

/-- A call that waits for its process ends as soon as that was created, or was not. -/
theorem returned_of_attempt (attempt : d.attempt?.isSome) : d.returned?.isSome := by
  unfold attempt? at attempt
  split at attempt
  · rename_i name id outcome action
    obtain ⟨p, hp⟩ := Option.isSome_iff_exists.mp (Option.isSome_map.symm.trans attempt)
    obtain ⟨y, hy⟩ := Session.Room.ends_launched hp d.house.setting outcome
    rw [returned?, action, (d.house.returned_act rfl).mpr ⟨y, hy, rfl⟩]
    rfl
  · rename_i id outcome extra action
    obtain ⟨p, hp⟩ := Option.isSome_iff_exists.mp (Option.isSome_map.symm.trans attempt)
    rw [returned?, action]
    change (d.house.actShot (.launched id outcome extra)).returned.isSome
    simp only [House.actShot, OneShot.Shots.act, OneShot.Shots.launched, hp]
    cases outcome <;> rfl
  · cases attempt

end Deed

/-- In every run, whatever strings were given and whatever the system answers: a call that starts or
restarts a session or launches a single command, and comes to its end, returns a session or a
launch, or fails with a report, which for a process that could not be created carries the command
that was attempted. It ends otherwise only if the system cannot tell whether the artifact is there,
if it cannot take a text of the command, the directory or the variables, or if the call was told to
give up. A call that waits for its process ends as soon as the system has answered. -/
theorem launches_accounted {ds : List Deed} {h : House} (run : Run ds h) {d : Deed} (done : d ∈ ds)
    (lawful : d.IsLawful) (textual : d.house.IsTextual) :
    (∀ reply, d.Concludes ds reply → d.Accounts reply) ∧
      (d.attempt?.isSome → d.returned?.isSome) :=
  ⟨fun _ concludes => concludes.accounts run done lawful textual, Deed.returned_of_attempt⟩

/-- A session is started where there is no such program. -/
def barren : List Action :=
  [.begin 1 (.session (.text "x") (.start ⟨.here, ["proj"]⟩)),
    .room (.text "x") (.launched 1 (.error (.system .noEntry none)))]

theorem launches_accounted_barren : ∃ d ∈ (play [] furnished barren).1,
    Run (play [] furnished barren).1 (play [] furnished barren).2 ∧
    d.attempt? = some ⟨["java", "-jar", "t", "repl"], ⟨.here, ["proj"]⟩,
      some (.system .noEntry none)⟩ ∧
    d.returned?.isSome ∧
    d.Accounts (.error (.failure (.spawn "java -jar t repl" "Command not found: java"))) := by
  have run := Run.furnished.play barren (by decide +kernel)
  let d : Deed := ⟨(play [] furnished (barren.take 1)).2,
    .room (.text "x") (.launched 1 (.error (.system .noEntry none)))⟩
  have attempt : d.attempt? = some ⟨["java", "-jar", "t", "repl"], ⟨.here, ["proj"]⟩,
      some (.system .noEntry none)⟩ := by rfl
  have returned : d.returned? = some (1, .error (.failure
      (.spawn "java -jar t repl" "Command not found: java"))) := by rfl
  have lawful : d.IsLawful := by
    intro a ha
    rw [attempt] at ha
    cases ha
    exact ⟨by simp, by simp⟩
  obtain ⟨accounts, ends⟩ := launches_accounted run (d := d) List.mem_cons_self lawful
    ⟨rfl, _, rfl⟩
  exact ⟨d, List.mem_cons_self, run, attempt, ends (by rw [attempt]; rfl),
    accounts _ (.session (q := .start ⟨.here, ["proj"]⟩) rfl (by decide +kernel) rfl returned)⟩

/-- A single command is launched with a null character in it, which the system cannot take. -/
def nullified : List Action :=
  [.begin 1 (.oneShot ⟨.here, ["t"]⟩ ⟨.here, ["proj"]⟩ "a\x00b"),
    .shot (.launched 1 (.error .badValue) [])]

theorem not_reported_nullified : ∃ d ∈ (play [] furnished nullified).1,
    Run (play [] furnished nullified).1 (play [] furnished nullified).2 ∧
    d.IsLawful ∧ d.house.IsTextual ∧
    d.Concludes (play [] furnished nullified).1 (.error (.breakdown .badValue)) ∧
    ¬ d.Reports (.error (.breakdown .badValue)) := by
  have run := Run.furnished.play nullified (by decide +kernel)
  let d : Deed := ⟨(play [] furnished (nullified.take 1)).2,
    .shot (.launched 1 (.error .badValue) [])⟩
  have attempt : d.attempt? = some ⟨["java", "-jar", "t", "a\x00b"], ⟨.here, ["proj"]⟩,
      some .badValue⟩ := by rfl
  refine ⟨d, List.mem_cons_self, run, ?_, ⟨rfl, _, rfl⟩, .launched rfl rfl, nofun⟩
  intro a ha
  rw [attempt] at ha
  cases ha
  exact ⟨by simp, fun _ => .inl ⟨"a\x00b", by simp, by decide⟩⟩

end ToolHost

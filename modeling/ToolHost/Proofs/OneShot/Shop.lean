import Mathlib.Tactic
import ToolHost.Proofs.EventLoop

/-!
# Many who ask for single commands

Any number of calls launch single commands or wait for those that are under way, while processes
end and whatever is ready runs in any order. Nothing here says who makes the calls. What the rest of
the program does meanwhile is left open, as long as it leaves the single commands alone.
-/
namespace ToolHost

open Machine (Path)
open OneShot (Shot Shots Pending Vigil)

/-- The processes of single commands that were created, the latest first, with their words and
directories. -/
def launches (trace : List Happening) : List (Pid × List String × String) :=
  trace.filterMap fun
    | .spawned false pid argv dir _ => some (pid, argv, dir)
    | _ => none

theorem launches_append (xs ys : List Happening) :
    launches (xs ++ ys) = launches xs ++ launches ys :=
  List.filterMap_append

/-- The words of a single command as they are now, or why there are none. -/
def House.shotWords (h : House) (artifact : Path) (text : String) :
    Except Trouble (List String) :=
  h.artifact artifact >>= fun _ => OneShot.words h.plan artifact.text text

/-- The words of a single command are the runtime, its arguments, the artifact, which is there, and
the words of the text. -/
theorem House.shotWords_ok {h : House} {artifact : Path} {text : String} {argv : List String}
    (made : h.shotWords artifact text = .ok argv) :
    h.artifact artifact = .ok () ∧ ∃ runtime words, h.plan.runtime = some runtime ∧
      Shell.split text = .ok words ∧
      argv = runtime :: h.plan.runtimeArgs ++ artifact.text :: words := by
  unfold House.shotWords at made
  cases present : h.artifact artifact with
  | error t => rw [present] at made; cases made
  | ok _ =>
    rw [present] at made
    change OneShot.words h.plan artifact.text text = .ok argv at made
    refine ⟨rfl, ?_⟩
    unfold OneShot.words Plan.argv at made
    cases runtime : h.plan.runtime with
    | none => cases words : Shell.split text <;> simp [runtime, words, Except.mapError] at made
    | some r =>
      cases words : Shell.split text with
      | error e => simp [runtime, words] at made
      | ok ws =>
        refine ⟨r, ws, rfl, rfl, ?_⟩
        simpa [runtime, words, Except.mapError, eq_comm] using made

/-- What a turn of the single commands brings about in a house. -/
def House.turnShots (h : House) (t : OneShot.Turn) : Outcome :=
  { house := { h with shots := t.shots, trace := t.trace ++ h.trace }
    jobs := t.jobs.map .shot
    returned := t.returned.map fun (id, e) => (id, House.replyOfShot e) }

/-- A house with what is ready to run of its single commands, and what was done for these, the
latest first. -/
structure Shop where
  done : List Deed := []
  house : House
  jobs : List OneShot.Job := []

namespace Deed

/-- The call that ended with what was done, and its reply. -/
def returned? (d : Deed) : Option (CallId × Except Trouble Reply) :=
  (d.house.act d.action).returned

/-- The processes of single commands that had been created before. -/
def launchesBefore (d : Deed) : List (Pid × List String × String) := launches d.house.trace

/-- The processes of single commands that had been created afterwards. -/
def launchesAfter (d : Deed) : List (Pid × List String × String) :=
  launches (d.house.act d.action).house.trace

/-- The single commands before. -/
def shotsBefore (d : Deed) : List Shot := d.house.shots.shots

/-- The single commands afterwards. -/
def shotsAfter (d : Deed) : List Shot := (d.house.act d.action).house.shots.shots

/-- No process is created, and nothing about those there are changes. -/
def IsFruitless (d : Deed) : Prop :=
  d.launchesAfter = d.launchesBefore ∧ d.shotsAfter = d.shotsBefore

end Deed

namespace Shop

variable {w w' : Shop} {id : CallId} {pid : Pid}

def opening (h : House) : Shop := { house := h }

/-- The calls that have been made. -/
def called (w : Shop) : List CallId := w.done.filterMap (·.action.begun?)

/-- The calls that have returned. -/
def returned (w : Shop) : List CallId := w.done.filterMap fun d => d.returned?.map (·.1)

/-- An action is carried out. -/
def perform (w : Shop) (a : Action) : Shop :=
  let o := w.house.act a
  { done := ⟨w.house, a⟩ :: w.done
    house := o.house
    jobs := w.jobs ++ o.jobs.filterMap fun | .shot j => some j | _ => none }

inductive Step (w : Shop) : Shop → Prop
  | invoke (id : CallId) (fresh : id ∉ w.called) (artifact dir : Path) (text : String) :
      Step w (w.perform (.begin id (.oneShot artifact dir text)))
  | await (id : CallId) (fresh : id ∉ w.called) : Step w (w.perform (.begin id .awaitOneShots))
  | job {j : OneShot.Job} {a : Action} (ready : j ∈ w.jobs) (does : (Job.shot j).Does w.house a)
      (fresh : ∀ pid, a.newborn? = some pid → w.house.shots.shot? pid = none) :
      Step w ({ w with jobs := w.jobs.erase j }.perform a)
  | exit {pid : Pid} {x : Shot} (child : w.house.shots.shot? pid = some x) (runs : x.code = none)
      (code : Int) : Step w (w.perform (.shot (.exit pid code)))
  /-- The rest of the program does something. -/
  | other {h : House} (shots : h.shots = w.house.shots)
      (spawned : launches h.trace = launches w.house.trace) : Step w { w with house := h }

abbrev Reaches : Shop → Shop → Prop := Relation.ReflTransGen Step

/-! ## What a step does -/

/-- What an action brings about, with the jobs that are left when it begins. -/
inductive Move (w : Shop) : Action → OneShot.Turn → List OneShot.Job → Prop
  | refuse {id : CallId} (fresh : id ∉ w.called) (artifact dir : Path) (text : String)
      {t : Trouble} (words : w.house.shotWords artifact text = .error t) :
      Move w (.begin id (.oneShot artifact dir text))
        { shots := w.house.shots, returned := some (id, .failed t) } w.jobs
  | ask {id : CallId} (fresh : id ∉ w.called) (artifact dir : Path) (text : String)
      {argv : List String} (words : w.house.shotWords artifact text = .ok argv) :
      Move w (.begin id (.oneShot artifact dir text))
        { shots := { w.house.shots with pending := w.house.shots.pending ++ [⟨id, argv, dir⟩] }
          jobs := [.resume id] } w.jobs
  | pass {id : CallId} (fresh : id ∉ w.called) (none : w.house.shots.listed = []) :
      Move w (.begin id .awaitOneShots)
        { shots := w.house.shots, returned := some (id, .codes []) } w.jobs
  | wait {id : CallId} (fresh : id ∉ w.called) :
      Move w (.begin id .awaitOneShots)
        { shots := { w.house.shots with
            vigils := w.house.shots.vigils ++
              [⟨id, w.house.shots.listed.map (·.pid), w.house.shots.listed.length⟩] }
          jobs := (w.house.shots.listed.filter (·.reaper = .done)).map fun _ => .count id } w.jobs
  | miss {p : Pending} (waits : p ∈ w.house.shots.pending) (fault : SpawnFault)
      (extra : Machine.Variables) :
      Move w (.shot (.launched p.id (.error fault) extra))
        { shots := { w.house.shots with
            pending := w.house.shots.pending.filter (·.id != p.id) }
          trace := [.spawnFailed p.argv p.dir.text]
          returned := some (p.id, .failed (fault.trouble p.argv p.dir.text)) }
        (w.jobs.erase (.resume p.id))
  | launch {p : Pending} (waits : p ∈ w.house.shots.pending) {pid : Pid}
      (fresh : w.house.shots.shot? pid = none) (extra : Machine.Variables) :
      Move w (.shot (.launched p.id (.ok pid) extra))
        { shots := { w.house.shots with
            shots := w.house.shots.shots ++ [{ pid, command := Shell.join p.argv }]
            pending := w.house.shots.pending.filter (·.id != p.id) }
          jobs := [.reap pid]
          trace := [.launched (Shell.join p.argv) pid p.dir.text,
            .spawned false pid p.argv p.dir.text extra]
          returned := some (p.id, .launched ⟨Shell.join p.argv, pid, p.dir.text⟩) }
        (w.jobs.erase (.resume p.id))
  | doze {x : Shot} (child : x ∈ w.house.shots.shots) (runs : x.code = none)
      (unreaped : x.reaper ≠ .done) :
      Move w (.shot (.reap x.pid)) { shots := w.house.shots.setShot { x with reaper := .asleep } }
        (w.jobs.erase (.reap x.pid))
  | reap {x : Shot} (child : x ∈ w.house.shots.shots) {code : Int} (ended : x.code = some code)
      (unreaped : x.reaper ≠ .done) :
      Move w (.shot (.reap x.pid))
        { shots := w.house.shots.setShot { x with reaper := .done }
          jobs := .forget x.pid ::
            (w.house.shots.vigils.filter fun v => v.pids.contains x.pid).map fun v => .count v.id
          trace := [.reaped x.command x.pid code] }
        (w.jobs.erase (.reap x.pid))
  | exit {x : Shot} (child : x ∈ w.house.shots.shots) (runs : x.code = none) (code : Int) :
      Move w (.shot (.exit x.pid code))
        { shots := w.house.shots.setShot { x with
            code := some code, reaper := if x.reaper = .asleep then .woken else x.reaper }
          jobs := if x.reaper = .asleep then [.reap x.pid] else []
          trace := [.exited x.pid code] } w.jobs
  | forget {x : Shot} (child : x ∈ w.house.shots.shots) (ready : .forget x.pid ∈ w.jobs) :
      Move w (.shot (.forget x.pid))
        { shots := w.house.shots.setShot { x with isListed := false } }
        (w.jobs.erase (.forget x.pid))
  | count {id : CallId} (ready : .count id ∈ w.jobs) {more : List OneShot.Job}
      (last : more = [] ∨ more = [.resume id]) :
      Move w (.shot (.count id))
        { shots := { w.house.shots with vigils := w.house.shots.vigils.map fun v =>
            if v.id = id then { v with missing := v.missing - 1 } else v }
          jobs := more } (w.jobs.erase (.count id))
  | resume {v : Vigil} (waits : v ∈ w.house.shots.vigils) (none : v.missing = 0) :
      Move w (.shot (.resume v.id))
        { shots := { w.house.shots with
            vigils := w.house.shots.vigils.filter (·.id != v.id) }
          returned := some (v.id, .codes (w.house.shots.codes v.pids)) }
        (w.jobs.erase (.resume v.id))
  /-- Nothing is left to do. -/
  | idle {b : OneShot.Action} {j : OneShot.Job} (calm : ∀ pid code, b ≠ .exit pid code)
      (job : ∀ id, j ≠ .count id) :
      Move w (.shot b) { shots := w.house.shots } (w.jobs.erase j)

/-- The shop after an action. -/
def next (w : Shop) (a : Action) (t : OneShot.Turn) (jobs : List OneShot.Job) : Shop :=
  { done := ⟨w.house, a⟩ :: w.done
    house := { w.house with shots := t.shots, trace := t.trace ++ w.house.trace }
    jobs := jobs ++ t.jobs }

theorem perform_eq {a : Action} {t : OneShot.Turn} {jobs : List OneShot.Job}
    (same : w.house.act a = w.house.turnShots t) :
    { w with jobs := jobs }.perform a = w.next a t jobs := by
  have shots (js : List OneShot.Job) :
      (js.map Job.shot).filterMap (fun | .shot j => some j | _ => none) = js := by
    induction js with
    | nil => rfl
    | cons j js ih => simp [ih]
  simp [perform, same, House.turnShots, next, shots]

theorem mem_shots {s : Shots} {x : Shot} (child : s.shot? pid = some x) :
    x ∈ s.shots ∧ x.pid = pid := by
  have hx := List.find?_some child
  exact ⟨List.mem_of_find?_eq_some child, by simpa using hx⟩

/-- A call that waits for a process is told what came of it. -/
theorem move_launched {id : CallId} (awaits : w.house.shots.pending.any (·.id = id) = true)
    (outcome : Except SpawnFault Pid) (extra : Machine.Variables)
    (fresh : ∀ pid, outcome = .ok pid → w.house.shots.shot? pid = none) :
    Move w (.shot (.launched id outcome extra))
      (w.house.shots.act (.launched id outcome extra)) (w.jobs.erase (.resume id)) := by
  cases found : w.house.shots.pending.find? (·.id = id) with
  | none =>
    obtain ⟨p, hp, same⟩ := List.any_eq_true.mp awaits
    exact absurd same (List.find?_eq_none.mp found p hp)
  | some p =>
    obtain rfl : p.id = id := by simpa using List.find?_some found
    have waits := List.mem_of_find?_eq_some found
    cases outcome with
    | error fault =>
      simp only [Shots.act, Shots.launched, found]
      exact .miss waits fault extra
    | ok pid =>
      simp only [Shots.act, Shots.launched, found]
      exact .launch waits (fresh pid rfl) extra

theorem move_reap (w : Shop) (pid : Pid) :
    Move w (.shot (.reap pid)) (w.house.shots.act (.reap pid)) (w.jobs.erase (.reap pid)) := by
  cases child : w.house.shots.shot? pid with
  | none =>
    have act : w.house.shots.act (.reap pid) = { shots := w.house.shots } := by
      simp only [Shots.act, Shots.reap, child]
    exact act ▸ .idle (by simp) (by simp)
  | some x =>
    obtain ⟨hx, rfl⟩ := mem_shots child
    by_cases reaper : x.reaper = .done
    · have act : w.house.shots.act (.reap x.pid) = { shots := w.house.shots } := by
        simp only [Shots.act, Shots.reap, child, reaper]
      exact act ▸ .idle (by simp) (by simp)
    · cases code : x.code with
      | none =>
        have act : w.house.shots.act (.reap x.pid) =
            { shots := w.house.shots.setShot { x with reaper := .asleep } } := by
          cases h : x.reaper <;> simp_all [Shots.act, Shots.reap]
        exact act ▸ .doze hx code reaper
      | some c =>
        have act : w.house.shots.act (.reap x.pid) =
            { shots := w.house.shots.setShot { x with reaper := .done }
              jobs := .forget x.pid :: (w.house.shots.vigils.filter
                fun v => v.pids.contains x.pid).map fun v => .count v.id
              trace := [.reaped x.command x.pid c] } := by
          cases h : x.reaper <;> simp_all [Shots.act, Shots.reap]
        exact act ▸ .reap hx code reaper

theorem move_exit {x : Shot} (child : w.house.shots.shot? pid = some x) (runs : x.code = none)
    (code : Int) :
    Move w (.shot (.exit pid code)) (w.house.shots.act (.exit pid code)) w.jobs := by
  obtain ⟨hx, rfl⟩ := mem_shots child
  have act : w.house.shots.act (.exit x.pid code) =
      { shots := w.house.shots.setShot { x with
          code := some code, reaper := if x.reaper = .asleep then .woken else x.reaper }
        jobs := if x.reaper = .asleep then [.reap x.pid] else []
        trace := [.exited x.pid code] } := by
    simp [Shots.act, Shots.exit, child, runs]
  exact act ▸ .exit hx runs code

theorem move_forget (ready : .forget pid ∈ w.jobs) :
    Move w (.shot (.forget pid)) (w.house.shots.act (.forget pid))
      (w.jobs.erase (.forget pid)) := by
  cases child : w.house.shots.shot? pid with
  | none =>
    have act : w.house.shots.act (.forget pid) = { shots := w.house.shots } := by
      simp only [Shots.act, Shots.forget, child]
    exact act ▸ .idle (by simp) (by simp)
  | some x =>
    obtain ⟨hx, rfl⟩ := mem_shots child
    have act : w.house.shots.act (.forget x.pid) =
        { shots := w.house.shots.setShot { x with isListed := false } } := by
      simp only [Shots.act, Shots.forget, child]
    exact act ▸ .forget hx ready

theorem move_resume (w : Shop) (id : CallId) :
    Move w (.shot (.resume id)) (w.house.shots.act (.resume id))
      (w.jobs.erase (.resume id)) := by
  have idle (act : w.house.shots.act (.resume id) = { shots := w.house.shots }) :
      Move w (.shot (.resume id)) (w.house.shots.act (.resume id))
        (w.jobs.erase (.resume id)) := act ▸ .idle (by simp) (by simp)
  cases found : w.house.shots.vigils.find? (·.id = id) with
  | none => exact idle (by simp only [Shots.act, Shots.resume, found])
  | some v =>
    obtain rfl : v.id = id := by simpa using List.find?_some found
    by_cases missing : v.missing = 0
    · have act : w.house.shots.act (.resume v.id) =
          { shots := { w.house.shots with
              vigils := w.house.shots.vigils.filter (·.id != v.id) }
            returned := some (v.id, .codes (w.house.shots.codes v.pids)) } := by
        simp only [Shots.act, Shots.resume, found, missing, ne_eq, not_true_eq_false, if_false]
      exact act ▸ .resume (List.mem_of_find?_eq_some found) missing
    · exact idle (by simp only [Shots.act, Shots.resume, found, ne_eq, missing, not_false_eq_true,
        if_true])

theorem move_count (ready : .count id ∈ w.jobs) :
    Move w (.shot (.count id)) (w.house.shots.act (.count id)) (w.jobs.erase (.count id)) := by
  refine .count ready ?_
  split
  · exact .inr rfl
  · exact .inl rfl

/-- A step is a move about single commands, or leaves these alone. -/
theorem Step.move (step : Step w w') :
    (∃ a t jobs, Move w a t jobs ∧ w.house.act a = w.house.turnShots t ∧ w' = w.next a t jobs) ∨
    ∃ h, h.shots = w.house.shots ∧ launches h.trace = launches w.house.trace ∧
      w' = { w with house := h } := by
  have about {a : Action} {b : OneShot.Action} {jobs : List OneShot.Job}
      (same : w.house.act a = w.house.actShot b) (move : Move w a (w.house.shots.act b) jobs) :
      ∃ a' t jobs', Move w a' t jobs' ∧ w.house.act a' = w.house.turnShots t ∧
        { w with jobs := jobs }.perform a = w.next a' t jobs' :=
    ⟨a, _, jobs, move, same, perform_eq same⟩
  cases step with
  | invoke id fresh artifact dir text =>
    refine .inl (about (b := .begin id (w.house.shotWords artifact text) dir) rfl ?_)
    cases words : w.house.shotWords artifact text with
    | error t => exact .refuse fresh artifact dir text words
    | ok argv => exact .ask fresh artifact dir text words
  | await id fresh =>
    refine .inl (about (b := .await id) rfl ?_)
    by_cases none : w.house.shots.listed = []
    · have act : w.house.shots.act (.await id) =
          { shots := w.house.shots, returned := some (id, .codes []) } := by
        simp [Shots.act, Shots.await, none]
      exact act ▸ .pass fresh none
    · have act : w.house.shots.act (.await id) =
          { shots := { w.house.shots with
              vigils := w.house.shots.vigils ++
                [⟨id, w.house.shots.listed.map (·.pid), w.house.shots.listed.length⟩] }
            jobs := (w.house.shots.listed.filter (·.reaper = .done)).map fun _ => .count id } := by
        simp [Shots.act, Shots.await, none]
      exact act ▸ .wait fresh
  | job ready does fresh =>
    refine .inl ?_
    cases does with
    | spawned awaits outcome =>
      exact about rfl (move_launched awaits outcome _ fun pid h => fresh pid (h ▸ rfl))
    | counted => exact about rfl (w.move_resume _)
    | reap => exact about rfl (w.move_reap _)
    | forget => exact about rfl (move_forget ready)
    | count => exact about rfl (move_count ready)
  | exit child runs code => exact .inl (about rfl (move_exit child runs code))
  | other shots spawned => exact .inr ⟨_, shots, spawned, rfl⟩

/-! ## Runs -/

/-- What was done was done at some time. -/
theorem back {h : House} {later earlier : List Deed} {d : Deed} (reach : Reaches (opening h) w)
    (done : w.done = later ++ d :: earlier) :
    ∃ v t jobs, Reaches (opening h) v ∧ v.done = earlier ∧ v.house = d.house ∧
      Move v d.action t jobs ∧ v.house.act d.action = v.house.turnShots t := by
  induction reach generalizing later with
  | refl => cases later <;> cases done
  | @tail v w reach step ih =>
    rcases step.move with ⟨a, t, jobs, move, same, rfl⟩ | ⟨k, -, -, rfl⟩
    · cases later with
      | nil =>
        cases done
        exact ⟨v, t, jobs, reach, rfl, rfl, move, same⟩
      | cons e later => exact ih (List.cons.inj done).2
    · exact ih done

end Shop
end ToolHost

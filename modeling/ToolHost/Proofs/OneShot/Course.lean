import Mathlib
import ToolHost.Proofs.EventLoop
import ToolHost.Proofs.OneShot.Errand

/-!
# The course of an errand

From its beginning to its end an errand passes through a few stages, whatever the order in which
the loop runs what is ready and whenever the process ends. Each step leads to a later stage, so
there are only so many of them; and there always is one until the routine has ended.
-/
namespace ToolHost

open OneShot (Shot Shots Vigil)

/-- The processes that were created, with their words and directories. -/
def spawned (trace : List Happening) : List (Pid × List String × String) :=
  trace.filterMap fun
    | .spawned _ pid argv dir _ => some (pid, argv, dir)
    | _ => none

/-- The processes of single commands are created when they are asked for. -/
def Action.Spawns : Action → Prop
  | .shot (.launched _ (.error _) _) => False
  | _ => True

namespace World

variable {α : Type} {allowed : Action → Prop} {w w' : World α}

/-- What an action about single commands does. -/
theorem perform_shot (w : World α) {a : Action} {b : OneShot.Action} {t : OneShot.Turn}
    (same : w.house.act a = w.house.actShot b) (act : w.house.shots.act b = t) :
    w.perform a =
      { done := ⟨w.house, a⟩ :: w.done
        house := { w.house with shots := t.shots, trace := t.trace ++ w.house.trace }
        jobs := w.jobs ++ t.jobs.map .shot
        standing := w.standing.receive a
          (t.returned.map fun (id, r) => (id, House.replyOfShot r)) } := by
  subst act
  simp only [perform, same]
  rfl

/-- Where there are neither sessions nor installations, a turn is about single commands. -/
theorem Turn.of_vacant (turn : Turn allowed w w') (rooms : w.house.rooms = [])
    (installs : w.house.installs = []) (jobs : ∀ j ∈ w.jobs, ∃ k, j = .shot k) :
    (∃ k a, .shot k ∈ w.jobs ∧ Job.Does w.house (.shot k) a ∧ allowed a ∧
      w' = { w with jobs := w.jobs.erase (.shot k) }.perform a) ∨
    ∃ pid x code, w.house.shots.shot? pid = some x ∧ x.code = none ∧
      w' = w.perform (.shot (.exit pid code)) := by
  have vacant (name : SessionName) : w.house.room name = { name } := by
    simp [House.room, rooms]
  cases turn with
  | job ready does _ may =>
    obtain ⟨k, rfl⟩ := jobs _ ready
    exact .inl ⟨k, _, ready, does, may, rfl⟩
  | feed ready ofChild =>
    obtain ⟨k, rfl⟩ := jobs _ ready
    cases ofChild
  | event happens _ =>
    cases happens with
    | output child => simp [vacant, Session.Room.child?] at child
    | closeOutput child => simp [vacant, Session.Room.child?] at child
    | exit child => simp [vacant, Session.Room.child?] at child
    | wake waits => simp [vacant, Session.Room.isInGrace, Session.Room.caller?] at waits
    | drained caller => simp [vacant, Session.Room.caller?] at caller
    | shotExit child runs code => exact .inr ⟨_, _, code, child, runs, rfl⟩
    | received waits => simp [installs] at waits

end World

namespace Cli

variable {e : Errand} {w w' : World (Except Trouble Int)} {pid : Pid} {code : Int}

/-- The process was created, and the routine was told so. -/
structure Told (e : Errand) (w : World (Except Trouble Int)) (pid : Pid) : Prop where
  rooms : w.house.rooms = []
  roster : w.house.roster = []
  installs : w.house.installs = []
  spawned : spawned w.house.trace = [(pid, e.argv, e.work.dir.text)]
  replied : ∃ d ∈ w.done, ∃ id, (d.house.act d.action).returned =
    some (id, .ok (.launched (e.launch pid)))

/-- The command was shown, and the process is waited for. -/
structure Watched (e : Errand) (w : World (Except Trouble Int)) (pid : Pid) (x : Shot)
    (vs : List Vigil) : Prop extends Told e w pid where
  shows : .reported (Terminal.Markup.onPage e.shown) ∈ w.house.trace
  shots : w.house.shots = .watched x vs
  number : x.pid = pid

/-- The process has ended. -/
structure Finished (e : Errand) (w : World (Except Trouble Int)) (pid : Pid) (code : Int) (x : Shot)
    (vs : List Vigil) : Prop extends Watched e w pid x vs where
  ended : x.code = some code
  exited : .exited pid code ∈ w.house.trace

/-- How far an errand has come. The number counts down. -/
inductive Stage (e : Errand) (w : World (Except Trouble Int)) : Nat → Prop
  | opening (house : w.house = e.house) (jobs : w.jobs = [])
      (standing : w.standing = .going e.routine) : Stage e w 15
  | asking (house : w.house = e.house) (jobs : w.jobs = [])
      (standing : w.standing = .going e.asking) : Stage e w 14
  | spawning {id : CallId}
      (house : w.house = { e.house with shots := { pending := [⟨id, e.argv, e.work.dir⟩] } })
      (jobs : w.jobs = [.shot (.resume id)])
      (standing : w.standing = .waiting id (.oneShot e.artifact e.work.dir e.text)
        fun r => e.asking.onReply r) : Stage e w 13
  | telling {pid : Pid} (told : Told e w pid)
      (shots : w.house.shots = .watched { pid, command := e.command } [])
      (jobs : w.jobs = [.shot (.reap pid)]) (standing : w.standing = .going (e.telling pid)) :
      Stage e w 12
  | calling {pid : Pid} (watched : Watched e w pid { pid, command := e.command } [])
      (jobs : w.jobs = [.shot (.reap pid)]) (standing : w.standing = .going (e.calling pid)) :
      Stage e w 11
  | watching {pid : Pid} {id : CallId} {x : Shot} (watched : Watched e w pid x [⟨id, [pid], 1⟩])
      (runs : x.code = none) (reaper : x.reaper = .unstarted) (jobs : w.jobs = [.shot (.reap pid)])
      (standing : w.standing = .waiting id .awaitOneShots fun r => (e.calling pid).onReply r) :
      Stage e w 10
  | dozing {pid : Pid} {id : CallId} {x : Shot} (watched : Watched e w pid x [⟨id, [pid], 1⟩])
      (runs : x.code = none) (reaper : x.reaper = .asleep) (jobs : w.jobs = [])
      (standing : w.standing = .waiting id .awaitOneShots fun r => (e.calling pid).onReply r) :
      Stage e w 9
  | waking {pid : Pid} {code : Int} {id : CallId} {x : Shot}
      (finished : Finished e w pid code x [⟨id, [pid], 1⟩])
      (reaper : x.reaper ≠ .done) (jobs : w.jobs = [.shot (.reap pid)])
      (standing : w.standing = .waiting id .awaitOneShots fun r => (e.calling pid).onReply r) :
      Stage e w 8
  | counting {pid : Pid} {code : Int} {id : CallId} {x : Shot} {others : List Job}
      (finished : Finished e w pid code x [⟨id, [pid], 1⟩])
      (forgetting : others = [] ∨ others = [.shot (.forget pid)])
      (jobs : w.jobs = others ++ [.shot (.count id)])
      (standing : w.standing = .waiting id .awaitOneShots fun r => (e.calling pid).onReply r) :
      Stage e w (6 + others.length)
  | resuming {pid : Pid} {code : Int} {id : CallId} {x : Shot} {others : List Job}
      (finished : Finished e w pid code x [⟨id, [pid], 0⟩])
      (forgetting : others = [] ∨ others = [.shot (.forget pid)])
      (jobs : w.jobs = others ++ [.shot (.resume id)])
      (standing : w.standing = .waiting id .awaitOneShots fun r => (e.calling pid).onReply r) :
      Stage e w (4 + others.length)
  | leaving {pid : Pid} {code : Int} {x : Shot} {others : List Job} (finished : Finished e w pid code x [])
      (forgetting : others = [] ∨ others = [.shot (.forget pid)]) (jobs : w.jobs = others)
      (standing : w.standing = .going (e.leaving pid code)) : Stage e w (2 + others.length)
  | ended {pid : Pid} {code : Int} {x : Shot} {others : List Job} (finished : Finished e w pid code x [])
      (forgetting : others = [] ∨ others = [.shot (.forget pid)]) (jobs : w.jobs = others)
      (standing : w.standing = .going (.done (.ok code))) : Stage e w others.length

/-! ## One step -/

/-- What an action does while the process is there, if it creates none. -/
theorem Watched.perform {x y : Shot} {vs us : List Vigil} {b : OneShot.Action}
    {t : OneShot.Turn} (watched : Watched e w pid x vs) (a : Action) (same : w.house.act a = w.house.actShot b)
    (act : (Shots.watched x vs).act b = t) (js : List Job) (s : Standing (Except Trouble Int))
    (shots : t.shots = .watched y us) (quiet : spawned t.trace = []) (number : y.pid = pid) :
    Watched e ({ w with jobs := js, standing := s }.perform a) pid y us ∧
      ({ w with jobs := js, standing := s }.perform a).jobs = js ++ t.jobs.map .shot ∧
      ({ w with jobs := js, standing := s }.perform a).standing =
        s.receive a (t.returned.map fun (id, r) => (id, House.replyOfShot r)) ∧
      ({ w with jobs := js, standing := s }.perform a).house.trace =
        t.trace ++ w.house.trace := by
  obtain ⟨d, hd, told⟩ := watched.replied
  rw [World.perform_shot { w with jobs := js, standing := s } same
    ((congrArg (Shots.act · b) watched.shots).trans act)]
  refine ⟨?_, rfl, rfl, rfl⟩
  exact {
    rooms := watched.rooms
    roster := watched.roster
    installs := watched.installs
    spawned := by
      have old := watched.spawned
      unfold ToolHost.spawned at quiet old ⊢
      rw [List.filterMap_append, quiet, old]
      rfl
    replied := ⟨d, List.mem_cons_of_mem _ hd, told⟩
    shows := List.mem_append_right _ watched.shows
    shots
    number }

/-- What runs when the process has ended. -/
theorem Finished.perform {x y : Shot} {vs us : List Vigil} {b : OneShot.Action}
    {t : OneShot.Turn} (finished : Finished e w pid code x vs)
    (act : (Shots.watched x vs).act b = t) (js : List Job)
    (shots : t.shots = .watched y us) (quiet : spawned t.trace = []) (number : y.pid = x.pid)
    (ended : y.code = x.code) :
    Finished e ({ w with jobs := js }.perform (.shot b)) pid code y us ∧
      ({ w with jobs := js }.perform (.shot b)).jobs = js ++ t.jobs.map .shot ∧
      ({ w with jobs := js }.perform (.shot b)).standing =
        w.standing.receive (.shot b)
          (t.returned.map fun (id, r) => (id, House.replyOfShot r)) := by
  obtain ⟨watched, hjobs, hstanding, htrace⟩ := finished.toWatched.perform (.shot b) rfl act js w.standing
    shots quiet (number.trans finished.number)
  refine ⟨⟨watched, ended.trans finished.ended, ?_⟩, hjobs, hstanding⟩
  rw [htrace]
  exact List.mem_append_right _ finished.exited

/-- While the process is there, what is ready runs, or the process ends. -/
theorem Watched.turn {x : Shot} {vs : List Vigil} (watched : Watched e w pid x vs)
    (jobs : ∀ j ∈ w.jobs, ∃ k, j = .shot k) (turn : World.Turn Action.Spawns w w') :
    (∃ k a, .shot k ∈ w.jobs ∧ Job.Does w.house (.shot k) a ∧
      w' = { w with jobs := w.jobs.erase (.shot k) }.perform a) ∨
    (x.code = none ∧ ∃ code, w' = w.perform (.shot (.exit pid code))) := by
  rcases turn.of_vacant watched.rooms watched.installs jobs with
    ⟨k, a, ready, does, -, rfl⟩ | ⟨q, y, code, child, runs, rfl⟩
  · exact .inl ⟨k, a, ready, does, rfl⟩
  · rw [watched.shots, Shots.shot?, Shots.watched, List.find?_singleton] at child
    split at child
    next hq =>
      obtain rfl : x = y := by simpa using child
      obtain rfl : x.pid = q := by simpa using hq
      rw [watched.number]
      exact .inr ⟨runs, code, rfl⟩
    next => cases child

/-- When the process has ended, what is ready runs. -/
theorem Finished.turn {x : Shot} {vs : List Vigil} (finished : Finished e w pid code x vs)
    (jobs : ∀ j ∈ w.jobs, ∃ k, j = .shot k) (turn : World.Turn Action.Spawns w w') :
    ∃ k a, .shot k ∈ w.jobs ∧ Job.Does w.house (.shot k) a ∧
      w' = { w with jobs := w.jobs.erase (.shot k) }.perform a := by
  rcases finished.toWatched.turn jobs turn with h | ⟨runs, -⟩
  · exact h
  · rw [finished.ended] at runs
    cases runs

/-- Whether the reaper has looked yet or sleeps, it finds out that the process has ended. -/
theorem Watched.exits {id : CallId} {x : Shot} (watched : Watched e w pid x [⟨id, [pid], 1⟩])
    (runs : x.code = none)
    (reaper : x.reaper = .unstarted ∧ w.jobs = [.shot (.reap pid)] ∨
      x.reaper = .asleep ∧ w.jobs = [])
    (standing : w.standing = .waiting id .awaitOneShots fun r => (e.calling pid).onReply r)
    (code : Int) : Stage e (w.perform (.shot (.exit pid code))) 8 := by
  obtain ⟨hw, hj, hs, ht⟩ := watched.perform (.shot (.exit pid code)) rfl
    (Shots.exit_watched _ code watched.number runs) w.jobs w.standing rfl rfl watched.number
  refine .waking ⟨hw, rfl, by rw [ht]; exact List.mem_cons_self⟩ ?_ (hj.trans ?_)
    (hs.trans (by rw [standing]; rfl))
  · rcases reaper with ⟨hreaper, -⟩ | ⟨hreaper, -⟩ <;> simp [hreaper]
  · rcases reaper with ⟨hreaper, hjobs⟩ | ⟨hreaper, hjobs⟩ <;> simp [hreaper, hjobs]

/-- A process goes off the list when it has ended. -/
theorem Finished.forgets {x : Shot} {vs : List Vigil} (finished : Finished e w pid code x vs)
    {last : List Job} (jobs : w.jobs = .shot (.forget pid) :: last) :
    ∃ y, Finished e
        ({ w with jobs := w.jobs.erase (.shot (.forget pid)) }.perform (.shot (.forget pid)))
        pid code y vs ∧
      ({ w with jobs := w.jobs.erase (.shot (.forget pid)) }.perform
        (.shot (.forget pid))).jobs = last ∧
      ({ w with jobs := w.jobs.erase (.shot (.forget pid)) }.perform
        (.shot (.forget pid))).standing = w.standing := by
  obtain ⟨hw, hj, hs⟩ := finished.perform (Shots.forget_watched vs finished.number)
    (w.jobs.erase (.shot (.forget pid))) rfl rfl rfl rfl
  refine ⟨_, hw, hj.trans (by simp [jobs]), hs.trans ?_⟩
  cases w.standing <;> rfl

/-- The house launches the process. -/
theorem begin_oneShot (e : Errand) (id : CallId) :
    e.house.act (.begin id (.oneShot e.artifact e.work.dir e.text)) =
      { house := { e.house with shots := { pending := [⟨id, e.argv, e.work.dir⟩] } }
        jobs := [.shot (.resume id)] } := by
  have hargv : (e.house.artifact e.artifact >>= fun _ =>
      OneShot.words e.house.plan e.artifact.text e.text) = .ok e.argv := by
    rw [e.present]
    simp [OneShot.words, Errand.text, Shell.split_join, Plan.argv, e.plan, Except.mapError, bind,
      Except.bind, Errand.argv]
  simp only [House.act, House.begin]
  rw [hargv, House.actShot, e.shots]
  rfl

/-- A step of an errand leads to a later stage. -/
theorem Stage.step {n : Nat} (stage : Stage e w n) (step : World.Step Action.Spawns w w') :
    ∃ m < n, Stage e w' m := by
  cases stage with
  | opening house jobs standing =>
    rw [(e.course 0 0).1] at standing
    rw [step.of_look standing]
    exact ⟨14, by decide, .asking house jobs (by rw [house]; rfl)⟩
  | asking house jobs standing =>
    rw [(e.course 0 0).2.1] at standing
    obtain ⟨id, -, rfl⟩ := step.of_call standing
    refine ⟨13, by decide, @Stage.spawning e _ id ?_ ?_ ?_⟩
    all_goals simp only [World.perform, house, begin_oneShot, jobs, List.nil_append]
    rfl
  | @spawning id house jobs standing =>
    have hturn := step.of_idle (.inl ⟨_, _, _, standing⟩)
    rcases hturn.of_vacant (by rw [house]; exact e.rooms) (by rw [house]; exact e.installs)
        (by simp [jobs]) with ⟨k, a, ready, does, may, rfl⟩ | ⟨q, y, code, child, -⟩
    · obtain rfl : k = .resume id := by simpa [jobs] using ready
      cases does with
      | counted awaits => simp [house] at awaits
      | spawned awaits outcome =>
        cases outcome with
        | error fault => cases may
        | ok pid =>
          have hact : w.house.shots.act (.launched id (.ok pid) w.house.extra) = _ :=
            (congrArg (fun h : House => h.shots.act _) house).trans
              (Shots.launched_ok e.argv e.work.dir w.house.extra)
          rw [World.perform_shot { w with jobs := w.jobs.erase (.shot (.resume id)) } rfl hact]
          refine ⟨12, by decide, .telling ⟨?_, ?_, ?_, ?_, ?_⟩ rfl ?_ ?_⟩
          · simp only [house, e.rooms]
          · simp only [house, e.roster]
          · simp only [house, e.installs]
          · simp [house, e.trace, ToolHost.spawned]
          · refine ⟨_, List.mem_cons_self, id, ?_⟩
            simp only [House.act, House.actShot, hact]
            rfl
          · simp [jobs]
          · simp [standing, Standing.receive, Action.Answers, Action.session?, House.replyOfShot,
              Errand.telling, Errand.launch, Errand.command]
    · simp [house, Shots.shot?] at child
  | @telling pid told shots jobs standing =>
    rw [(e.course pid 0).2.2.1] at standing
    rcases step.of_alter standing with ⟨-, rfl⟩ | ⟨name, clears, -⟩
    · refine ⟨11, by decide, .calling ⟨?_, ?_, shots, rfl⟩ jobs rfl⟩
      · exact { told with spawned := told.spawned }
      · exact List.mem_cons_self
    · have hrooms := congrArg House.rooms clears
      simp [House.act, House.actRoom, House.setRoom, House.say, told.rooms] at hrooms
  | @calling pid watched jobs standing =>
    rw [(e.course pid 0).2.2.2.1] at standing
    obtain ⟨id, -, rfl⟩ := step.of_call standing
    let x : Shot := { pid, command := e.command }
    have hact : (Shots.watched x []).act (.await id) = { shots := .watched x [⟨id, [pid], 1⟩] } :=
      Shots.await_watched (x := x) rfl (by simp [x])
    obtain ⟨hw, hj, hs, -⟩ :=
      watched.perform (.begin id .awaitOneShots) rfl hact w.jobs _ rfl rfl rfl
    exact ⟨10, by decide, .watching hw rfl rfl (hj.trans (by simp [jobs])) hs⟩
  | @watching pid id x watched runs reaper jobs standing =>
    have hturn := step.of_idle (.inl ⟨_, _, _, standing⟩)
    rcases watched.turn (by simp [jobs]) hturn with ⟨k, a, ready, does, rfl⟩ | ⟨-, code, rfl⟩
    · obtain rfl : k = .reap pid := by simpa [jobs] using ready
      cases does
      obtain ⟨hw, hj, hs, -⟩ := watched.perform (.shot (.reap pid)) rfl
        (Shots.reap_running _ watched.number (by simp [reaper]) runs) (w.jobs.erase _) w.standing
        rfl rfl watched.number
      exact ⟨9, by decide,
        .dozing hw runs rfl (hj.trans (by simp [jobs])) (hs.trans (by rw [standing]; rfl))⟩
    · exact ⟨8, by decide, watched.exits runs (.inl ⟨reaper, jobs⟩) standing code⟩
  | @dozing pid id x watched runs reaper jobs standing =>
    have hturn := step.of_idle (.inl ⟨_, _, _, standing⟩)
    rcases watched.turn (by simp [jobs]) hturn with ⟨k, a, ready, does, rfl⟩ | ⟨-, code, rfl⟩
    · simp [jobs] at ready
    · exact ⟨8, by decide, watched.exits runs (.inr ⟨reaper, jobs⟩) standing code⟩
  | @waking pid code id x finished reaper jobs standing =>
    have hturn := step.of_idle (.inl ⟨_, _, _, standing⟩)
    rcases finished.turn (by simp [jobs]) hturn with ⟨k, a, ready, does, rfl⟩
    obtain rfl : k = .reap pid := by simpa [jobs] using ready
    cases does
    obtain ⟨hw, hj, hs⟩ := finished.perform
      (Shots.reap_ended id finished.number reaper finished.ended) (w.jobs.erase _) rfl rfl rfl rfl
    exact ⟨7, by decide, .counting hw (.inr rfl) (hj.trans (by simp [jobs]))
      (hs.trans (by rw [standing]; rfl))⟩
  | @counting pid code id x others finished forgetting jobs standing =>
    have hturn := step.of_idle (.inl ⟨_, _, _, standing⟩)
    obtain ⟨k, a, ready, does, rfl⟩ :=
      finished.turn (by rcases forgetting with rfl | rfl <;> simp [jobs]) hturn
    have hk : k = .count id ∨ k = .forget pid ∧ others = [.shot (.forget pid)] := by
      rcases forgetting with rfl | rfl <;> simpa [jobs, or_comm] using ready
    rcases hk with rfl | ⟨rfl, rfl⟩
    · cases does
      obtain ⟨hw, hj, hs⟩ := finished.perform (Shots.count_watched x id pid) (w.jobs.erase _)
        rfl rfl rfl rfl
      refine ⟨_, by omega, .resuming hw forgetting (hj.trans ?_) (hs.trans (by rw [standing]; rfl))⟩
      rcases forgetting with rfl | rfl <;> simp [jobs]
    · cases does
      obtain ⟨y, hw, hj, hs⟩ := finished.forgets jobs
      exact ⟨_, by simp, .counting hw (.inl rfl) hj (hs.trans standing)⟩
  | @resuming pid code id x others finished forgetting jobs standing =>
    have hturn := step.of_idle (.inl ⟨_, _, _, standing⟩)
    obtain ⟨k, a, ready, does, rfl⟩ :=
      finished.turn (by rcases forgetting with rfl | rfl <;> simp [jobs]) hturn
    have hk : k = .resume id ∨ k = .forget pid ∧ others = [.shot (.forget pid)] := by
      rcases forgetting with rfl | rfl <;> simpa [jobs, or_comm] using ready
    rcases hk with rfl | ⟨rfl, rfl⟩
    · cases does with
      | spawned awaits => simp [finished.shots, Shots.watched] at awaits
      | counted awaits =>
        obtain ⟨hw, hj, hs⟩ := finished.perform
          (Shots.resume_watched id finished.number finished.ended) (w.jobs.erase _) rfl rfl rfl rfl
        refine ⟨_, by omega, .leaving hw forgetting (hj.trans ?_) (hs.trans ?_)⟩
        · rcases forgetting with rfl | rfl <;> simp [jobs]
        · rw [standing]
          simp [Standing.receive, Action.Answers, Action.session?, House.replyOfShot, Errand.leaving]
    · cases does
      obtain ⟨y, hw, hj, hs⟩ := finished.forgets jobs
      exact ⟨_, by simp, .resuming hw (.inl rfl) hj (hs.trans standing)⟩
  | @leaving pid code x others finished forgetting jobs standing =>
    rw [(e.course pid code).2.2.2.2.1] at standing
    rw [step.of_look standing, (e.course pid code).2.2.2.2.2 w.house finished.roster]
    exact ⟨_, by omega, .ended { finished with ended := finished.ended } forgetting jobs rfl⟩
  | @ended pid code x others finished forgetting jobs standing =>
    have hturn := step.of_idle (.inr ⟨_, standing⟩)
    rcases forgetting with rfl | rfl
    · obtain ⟨k, a, ready, -⟩ := finished.turn (by simp [jobs]) hturn
      simp [jobs] at ready
    · obtain ⟨k, a, ready, does, rfl⟩ := finished.turn (by simp [jobs]) hturn
      obtain rfl : k = .forget pid := by simpa [jobs] using ready
      cases does
      obtain ⟨y, hw, hj, hs⟩ := finished.forgets jobs
      exact ⟨_, by simp, .ended hw (.inl rfl) hj (hs.trans standing)⟩

/-! ## All steps -/

/-- An errand that is not over goes on, at the latest when the process ends. -/
theorem Stage.goes_on {n : Nat} (stage : Stage e w n) (unfinished : w.result? = none) :
    ∃ v, World.Step Action.Spawns w v := by
  obtain ⟨id, fresh⟩ := Infinite.exists_notMem_finset (w.done.filterMap (·.action.begun?)).toFinset
  rw [List.mem_toFinset] at fresh
  have runs {j : Job} {a : Action} (standing : w.standing.yields = true) (ready : j ∈ w.jobs)
      (does : j.Does w.house a) (newborn : a.newborn? = none) (may : a.Spawns) :
      ∃ v, World.Step Action.Spawns w v :=
    ⟨_, .job standing ready does (by simp [newborn]) may⟩
  cases stage with
  | opening house jobs standing =>
    rw [(e.course 0 0).1] at standing
    exact ⟨_, .look standing⟩
  | asking house jobs standing =>
    rw [(e.course 0 0).2.1] at standing
    exact ⟨_, .call standing fresh⟩
  | spawning house jobs standing =>
    refine ⟨_, .job (by rw [standing]; rfl) (by rw [jobs]; exact List.mem_cons_self)
      (.spawned (by simp [house]) (.ok 0)) ?_ trivial⟩
    rintro pid - (⟨name, known⟩ | known)
    · simp [house, House.room, e.rooms, Session.Room.pids] at known
    · simp [house, Shots.shot?] at known
  | @telling pid told shots jobs standing =>
    rw [(e.course pid 0).2.2.1] at standing
    exact ⟨_, .alter standing (House.Aside.say _ rfl)⟩
  | @calling pid watched jobs standing =>
    rw [(e.course pid 0).2.2.2.1] at standing
    exact ⟨_, .call standing fresh⟩
  | @watching pid _ _ _ _ _ jobs standing =>
    exact runs (by rw [standing]; rfl) (by simp [jobs]) (.reap pid) rfl trivial
  | @dozing pid _ x watched code reaper jobs standing =>
    have child : w.house.shots.shot? pid = some x := by
      rw [watched.shots, Shots.shot?_watched watched.number]
    exact ⟨_, .event (by rw [standing]; rfl) (.shotExit child code 0) trivial⟩
  | @waking pid _ _ _ _ _ jobs standing =>
    exact runs (by rw [standing]; rfl) (by simp [jobs]) (.reap pid) rfl trivial
  | @counting _ _ id _ _ _ _ jobs standing =>
    exact runs (by rw [standing]; rfl) (by simp [jobs]) (.count id) rfl trivial
  | @resuming _ _ id _ _ finished _ jobs standing =>
    have counted : w.house.shots.pending.any (·.id = id) = false := by
      simp [finished.shots, Shots.watched]
    exact runs (by rw [standing]; rfl) (by simp [jobs]) (.counted counted) rfl trivial
  | @leaving pid code x others finished forgetting jobs standing =>
    rw [(e.course pid code).2.2.2.2.1] at standing
    exact ⟨_, .look standing⟩
  | ended finished forgetting jobs standing =>
    rw [World.result?, standing] at unfinished
    cases unfinished

/-- An errand takes only so many steps. -/
theorem Stage.acc {n : Nat} (stage : Stage e w n) :
    Acc (fun v u => World.Step Action.Spawns u v) w := by
  induction n using Nat.strong_induction_on generalizing w with
  | _ n ih =>
    refine .intro w fun v step => ?_
    obtain ⟨m, hm, next⟩ := stage.step step
    exact ih m hm next

/-- Every errand is at some stage. -/
theorem Stage.of_reaches (reach : World.Reaches Action.Spawns (.opening e.routine e.house) w) :
    ∃ n, Stage e w n := by
  induction reach with
  | refl => exact ⟨15, .opening rfl rfl rfl⟩
  | tail _ step ih =>
    obtain ⟨n, stage⟩ := ih
    obtain ⟨m, -, next⟩ := stage.step step
    exact ⟨m, next⟩

/-- No process is created but one, with the words of the errand. -/
theorem Stage.spawned {n : Nat} (stage : Stage e w n) : spawned w.house.trace = [] ∨
    ∃ pid, spawned w.house.trace = [(pid, e.argv, e.work.dir.text)] := by
  cases stage with
  | opening house => exact .inl (by simp [house, e.trace, ToolHost.spawned])
  | asking house => exact .inl (by simp [house, e.trace, ToolHost.spawned])
  | spawning house => exact .inl (by simp [house, e.trace, ToolHost.spawned])
  | telling told => exact .inr ⟨_, told.spawned⟩
  | calling watched => exact .inr ⟨_, watched.spawned⟩
  | watching watched => exact .inr ⟨_, watched.spawned⟩
  | dozing watched => exact .inr ⟨_, watched.spawned⟩
  | waking finished => exact .inr ⟨_, finished.spawned⟩
  | counting finished => exact .inr ⟨_, finished.spawned⟩
  | resuming finished => exact .inr ⟨_, finished.spawned⟩
  | leaving finished => exact .inr ⟨_, finished.spawned⟩
  | ended finished => exact .inr ⟨_, finished.spawned⟩

/-- When the routine has ended, the process has. -/
theorem Stage.finished {n : Nat} (stage : Stage e w n) {r : Except Trouble Int}
    (result : w.result? = some r) :
    ∃ pid code x, r = .ok code ∧ Finished e w pid code x [] := by
  cases stage with
  | @ended pid code x others finished _ _ standing =>
    refine ⟨pid, code, x, ?_, finished⟩
    rw [World.result?, standing] at result
    exact (Option.some.inj result).symm
  | opening _ _ standing =>
    rw [World.result?, standing, (e.course 0 0).1] at result
    cases result
  | asking _ _ standing =>
    rw [World.result?, standing, (e.course 0 0).2.1] at result
    cases result
  | spawning _ _ standing => simp [World.result?, standing] at result
  | @telling pid _ _ _ standing =>
    rw [World.result?, standing, (e.course pid 0).2.2.1] at result
    cases result
  | @calling pid _ _ standing =>
    rw [World.result?, standing, (e.course pid 0).2.2.2.1] at result
    cases result
  | watching _ _ _ _ standing => simp [World.result?, standing] at result
  | dozing _ _ _ _ standing => simp [World.result?, standing] at result
  | waking _ _ _ standing => simp [World.result?, standing] at result
  | counting _ _ _ standing => simp [World.result?, standing] at result
  | resuming _ _ _ standing => simp [World.result?, standing] at result
  | @leaving pid code _ _ _ _ _ standing =>
    rw [World.result?, standing, (e.course pid code).2.2.2.2.1] at result
    cases result

end Cli

end ToolHost

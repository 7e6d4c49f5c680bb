import Mathlib.Tactic
import ToolHost.Commands
import ToolHost.Proofs.OneShot.Accounts
import ToolHost.Proofs.Routines

/-!
# Single commands are accounted for

Whoever asks for a single command gets exactly one process or an error and none, and whoever waits
for the single commands under way gets the exit code of each of them once.
-/
namespace ToolHost

open Machine (Path)
open OneShot (Shot Shots)

namespace OneShot.Shots

/-- Processes that are not reaped yet. -/
def unreaped (s : Shots) : List Shot := s.shots.filter (·.reaper ≠ .done)

/-- Processes that are reaped and still on the list. -/
def lingering (s : Shots) : List Shot := s.shots.filter fun x => x.reaper = .done && x.isListed

end OneShot.Shots

/-- The call that an action about single commands is a step of. -/
def Action.caller? : Action → Option CallId
  | .begin id _ | .shot (.begin id _ _) | .shot (.await id) | .shot (.launched id _ _)
  | .shot (.count id) | .shot (.resume id) => some id
  | _ => none

/-- What was done created one process, and nothing else. -/
structure Deed.Creates (d : Deed) (argv : List String) (dir : Path) (l : OneShot.Launch) :
    Prop where
  launch : l = ⟨Shell.join argv, l.pid, dir.text⟩
  new : l.pid ∉ d.shotsBefore.map (·.pid)
  process : d.launchesAfter = (l.pid, argv, dir.text) :: d.launchesBefore
  entry : d.shotsAfter = d.shotsBefore ++ [{ pid := l.pid, command := l.command }]
  reaper : (d.house.act d.action).jobs = [.shot (.reap l.pid)]

namespace Shop

variable {w : Shop} {later earlier : List Deed} {d : Deed} {id : CallId}

/-- Every process that was created has one entry, which is on the list until the process is reaped,
after its end. -/
structure Listing (w : Shop) : Prop where
  entries : (launches w.house.trace).map (·.1) = w.house.shots.pids.reverse
  nodup : w.house.shots.pids.Nodup
  listed : ∀ l ∈ launches w.house.trace, ∃ x ∈ w.house.shots.shots, x.pid = l.1 ∧
    (x.reaper ≠ .done → x ∈ w.house.shots.listed) ∧
    (x.reaper = .done → ∃ code, Ended w.done x.pid code)
  code : ∀ pid c k, Ended w.done pid c → Ended w.done pid k → c = k

/-- A call raised an error. It was to launch a command, and none of its steps did anything. -/
structure Raised (ds : List Deed) (id : CallId) : Prop where
  asked : ∃ e ∈ ds, ∃ artifact dir text, e.action = .begin id (.oneShot artifact dir text)
  fruitless : ∀ e ∈ ds, e.action.caller? = some id → e.IsFruitless

/-- A call launched a command in its last step, and did nothing else. -/
structure Launched (later : List Deed) (d : Deed) (earlier : List Deed) (id : CallId)
    (l : OneShot.Launch) : Prop where
  asked : ∃ e ∈ earlier, ∃ artifact dir text runtime words,
    e.action = .begin id (.oneShot artifact dir text) ∧ e.house.artifact artifact = .ok () ∧
    e.house.plan.runtime = some runtime ∧ Shell.split text = .ok words ∧
    d.Creates (runtime :: e.house.plan.runtimeArgs ++ artifact.text :: words) dir l
  fruitless : ∀ e ∈ later ++ earlier, e.action.caller? = some id → e.IsFruitless

/-- Exit codes as of the processes that were there in a house. -/
structure Gathered (h : House) (ds : List Deed) (cs : List Int) : Prop where
  ended : ∀ l ∈ launches h.trace, ∃ code, Ended ds l.1 code
  once : ((h.shots.unreaped ++ h.shots.lingering).map (·.pid)).Nodup
  codes : ∃ code : Pid → Int,
    (∀ x ∈ h.shots.unreaped ++ h.shots.lingering, Ended ds x.pid (code x.pid)) ∧
    cs.Perm ((h.shots.unreaped ++ h.shots.lingering).map fun x => code x.pid)

/-- What is certain of a call when its reply comes. -/
def Account (later : List Deed) (d : Deed) (earlier : List Deed) (id : CallId) :
    Except Trouble Reply → Prop
  | .error _ => Raised (later ++ d :: earlier) id
  | .ok (.launched l) => Launched later d earlier id l
  | .ok (.codes cs) => ∃ e ∈ d :: earlier, e.action = .begin id .awaitOneShots ∧
      Gathered e.house earlier cs
  | .ok _ => False

/-! ## Steps of a call -/

/-- A step of a call creates its process and ends it, or does nothing to the processes. -/
theorem Move.fruitless {a : Action} {t : OneShot.Turn} {jobs : List OneShot.Job}
    (move : Move w a t jobs) (own : a.caller? = some id) :
    (t.shots.shots = w.house.shots.shots ∧ launches t.trace = []) ∨
      ∃ l, t.returned = some (id, .launched l) := by
  cases move with
  | launch =>
    obtain rfl : _ = id := by simpa [Action.caller?] using own
    exact .inr ⟨_, rfl⟩
  | doze => cases own
  | reap => cases own
  | exit => cases own
  | forget => cases own
  | _ => exact .inl ⟨rfl, rfl⟩

theorem fruitless_or {h : House} (reach : Reaches (opening h) w)
    (done : w.done = later ++ d :: earlier) (own : d.action.caller? = some id) :
    d.IsFruitless ∨ ∃ l, d.returned? = some (id, .ok (.launched l)) := by
  obtain ⟨v, t, jobs, -, -, house, move, act⟩ := back reach done
  have act' : d.house.act d.action = d.house.turnShots t := house ▸ act
  rcases move.fruitless own with ⟨shots, trace⟩ | ⟨l, hl⟩
  · refine .inl ⟨?_, ?_⟩
    · rw [Deed.launchesAfter, act']
      show launches (t.trace ++ d.house.trace) = launches d.house.trace
      rw [launches_append, trace, List.nil_append]
    · rw [Deed.shotsAfter, act', Deed.shotsBefore, ← house]
      exact shots
  · refine .inr ⟨l, ?_⟩
    rw [Deed.returned?, act']
    simp [House.turnShots, hl, House.replyOfShot]

/-- A call returns only once. -/
theorem Calls.returned_nodup (calls : Calls w) : w.returned.Nodup :=
  (List.nodup_append.mp (calls.settled.nodup calls.nodup)).1

/-- What else was done did not bring the call to its end. -/
theorem Calls.unique (calls : Calls w) (done : w.done = later ++ d :: earlier)
    {reply : Except Trouble Reply} (returned : d.returned? = some (id, reply)) :
    ∀ e ∈ later ++ earlier, ∀ r, e.returned? ≠ some (id, r) := by
  have nodup := calls.returned_nodup
  simp only [Shop.returned, done, List.filterMap_append, List.filterMap_cons, returned,
    Option.map_some] at nodup
  have apart := (List.nodup_cons.mp (List.nodup_middle.mp nodup)).1
  intro e he r hr
  refine apart ?_
  rw [← List.filterMap_append]
  exact List.mem_filterMap.mpr ⟨e, he, by simp [hr]⟩

/-- All steps of a call but its last do nothing to the processes. -/
theorem others_fruitless {h : House} (reach : Reaches (opening h) w) (calls : Calls w)
    (done : w.done = later ++ d :: earlier) {reply : Except Trouble Reply}
    (returned : d.returned? = some (id, reply)) :
    ∀ e ∈ later ++ earlier, e.action.caller? = some id → e.IsFruitless := by
  intro e he own
  have mem : e ∈ w.done := by
    rw [done]
    rcases List.mem_append.mp he with he | he <;> simp [he]
  obtain ⟨after, before, split⟩ := List.append_of_mem mem
  refine (fruitless_or reach split own).resolve_right ?_
  rintro ⟨l, hl⟩
  exact calls.unique done returned e he _ hl

/-- A call that was to launch a command and raised an error did nothing. -/
theorem raised {h : House} (reach : Reaches (opening h) w) (calls : Calls w)
    (done : w.done = later ++ d :: earlier) {t : Trouble}
    (returned : d.returned? = some (id, .error t))
    (asked : ∃ e ∈ d :: earlier, ∃ artifact dir text,
      e.action = .begin id (.oneShot artifact dir text)) :
    Raised (later ++ d :: earlier) id where
  asked := asked.imp fun _ h => ⟨List.mem_append_right _ h.1, h.2⟩
  fruitless e he own := by
    have others := others_fruitless reach calls done returned e
    rcases List.mem_append.mp he with he | he
    · exact others (List.mem_append_left _ he) own
    · rcases List.mem_cons.mp he with rfl | he
      · refine (fruitless_or reach done own).resolve_right ?_
        rintro ⟨l, hl⟩
        cases returned.symm.trans hl
      · exact others (List.mem_append_right _ he) own

/-! ## Processes -/

theorem Books.listing (books : Books w) : Listing w where
  entries := books.children.created
  nodup := books.children.nodup
  listed l hl := by
    have mem : l.1 ∈ w.house.shots.pids := by
      rw [← List.mem_reverse, ← books.children.created]
      exact List.mem_map_of_mem hl
    obtain ⟨x, hx, same⟩ := List.mem_map.mp mem
    have entry := books.children.entries x hx
    refine ⟨x, hx, same, fun h => List.mem_filter.mpr ⟨hx, entry.listed h⟩, fun h => ?_⟩
    obtain ⟨code, hc⟩ := Option.isSome_iff_exists.mp (entry.reaped h)
    exact ⟨code, (entry.code code).mp hc⟩
  code pid c k hc hk := by
    obtain ⟨x, hx, rfl⟩ := List.mem_map.mp (books.children.known pid c hc)
    have entry := books.children.entries x hx
    exact Option.some.inj (((entry.code c).mpr hc).symm.trans ((entry.code k).mpr hk))

/-- The processes on the list are those that are not reaped and those that linger. -/
theorem Children.listed_perm (c : Children w) :
    w.house.shots.listed.Perm (w.house.shots.unreaped ++ w.house.shots.lingering) := by
  have unreaped : w.house.shots.unreaped =
      w.house.shots.listed.filter fun x => decide (x.reaper ≠ .done) := by
    simp only [Shots.unreaped, Shots.listed, List.filter_filter]
    refine List.filter_congr fun x hx => ?_
    have listed := (c.entries x hx).listed
    by_cases h : x.reaper = .done
    · simp [h]
    · simp [h, listed h]
  have lingering : w.house.shots.lingering =
      w.house.shots.listed.filter fun x => !decide (x.reaper ≠ .done) := by
    simp only [Shots.lingering, Shots.listed, List.filter_filter]
    refine List.filter_congr fun x _ => ?_
    by_cases h : x.reaper = .done <;> simp [h]
  rw [unreaped, lingering]
  exact (List.filter_append_perm _ _).symm

/-- When all processes on the list have ended, all processes have. -/
theorem Books.gathered (books : Books w) {ds : List Deed} (sub : w.done ⊆ ds) (code : Pid → Int)
    (ended : ∀ x ∈ w.house.shots.listed, Ended ds x.pid (code x.pid)) :
    Gathered w.house ds (w.house.shots.listed.map fun x => code x.pid) where
  ended l hl := by
    obtain ⟨x, -, same, listed, gone⟩ := books.listing.listed l hl
    by_cases h : x.reaper = .done
    · exact (gone h).imp fun _ h => same ▸ h.mono sub
    · exact ⟨_, same ▸ ended x (listed h)⟩
  once := (books.children.listed_perm.map _).nodup_iff.mp
    (books.children.nodup.sublist (List.filter_sublist.map _))
  codes := ⟨code, fun x hx => ended x (books.children.listed_perm.mem_iff.mpr hx),
    books.children.listed_perm.map _⟩

/-- The code of a process that is reaped is the one it ended with. -/
theorem Children.ended_of_isReaped (c : Children w) {pid : Pid}
    (reaped : w.house.shots.isReaped pid = true) :
    Ended w.done pid (((w.house.shots.shot? pid).bind (·.code)).getD 0) := by
  obtain ⟨x, hx, h⟩ := List.any_eq_true.mp reaped
  obtain ⟨rfl, done⟩ : x.pid = pid ∧ x.reaper = .done := by simpa using h
  obtain ⟨code, hc⟩ := Option.isSome_iff_exists.mp ((c.entries x hx).reaped done)
  rw [Shots.shot?_eq c.nodup hx]
  simpa [hc] using (c.entries x hx).code code |>.mp hc

/-! ## The account -/

theorem account {h : House} (fresh : h.shots = {}) (unspawned : launches h.trace = [])
    (reach : Reaches (opening h) w) (done : w.done = later ++ d :: earlier)
    {reply : Except Trouble Reply} (returned : d.returned? = some (id, reply)) :
    Account later d earlier id reply := by
  have calls := (Books.of_reaches fresh unspawned reach).calls
  obtain ⟨v, t, jobs, before, rfl, house, move, act⟩ := back reach done
  have books := Books.of_reaches fresh unspawned before
  have act' : d.house.act d.action = d.house.turnShots t := house ▸ act
  have reply_eq : (d.house.turnShots t).returned = some (id, reply) :=
    (congrArg Outcome.returned act').symm.trans returned
  obtain ⟨k, a⟩ := d
  obtain rfl : v.house = k := house
  cases move with
  | refuse fresh artifact dir text words =>
    cases reply_eq
    exact raised reach calls done returned ⟨_, List.mem_cons_self, artifact, dir, text, rfl⟩
  | pass fresh none =>
    cases reply_eq
    refine ⟨_, List.mem_cons_self, rfl, ?_⟩
    have gathered := books.gathered (List.Subset.refl v.done) (fun _ => 0) (by simp [none])
    simpa [none] using gathered
  | @miss p waits fault extra =>
    cases reply_eq
    obtain ⟨e, he, artifact, text, asked, -⟩ := books.reasons.asked p waits
    exact raised reach calls done returned
      ⟨e, List.mem_cons_of_mem _ he, artifact, p.dir, text, asked⟩
  | @launch p waits pid fresh extra =>
    cases reply_eq
    obtain ⟨e, he, artifact, text, asked, words⟩ := books.reasons.asked p waits
    obtain ⟨present, runtime, ws, plan, split, argv⟩ := House.shotWords_ok words
    refine ⟨⟨e, he, artifact, p.dir, text, runtime, ws, asked, present, plan, split, ?_⟩,
      others_fruitless reach calls done returned⟩
    rw [← argv]
    refine ⟨rfl, Children.fresh_pid fresh, ?_, ?_, ?_⟩
    · simp only [Deed.launchesAfter, act']
      rfl
    · simp only [Deed.shotsAfter, act']
      rfl
    · simp only [act']
      rfl
  | @resume u waits missing =>
    cases reply_eq
    obtain ⟨e, he, asked, pids⟩ := books.reasons.watching u waits
    refine ⟨e, List.mem_cons_of_mem _ he, asked, ?_⟩
    -- The call read the list when it began, and every process it read is reaped by now.
    obtain ⟨after, rest, split⟩ := List.append_of_mem he
    obtain ⟨b, -, -, begun, rfl, house, -⟩ := back before split
    have reaped : ∀ pid ∈ u.pids, v.house.shots.isReaped pid = true := by
      have none := (books.watches.each u waits).missing
      have zero : u.pids.countP (fun pid => !v.house.shots.isReaped pid) = 0 := by omega
      simpa using List.countP_eq_zero.mp zero
    have sub : b.done ⊆ v.done := by
      rw [split]
      exact fun _ h => List.mem_append_right _ (List.mem_cons_of_mem _ h)
    rw [← house] at pids ⊢
    have gathered := (Books.of_reaches fresh unspawned begun).gathered sub
      (fun pid => ((v.house.shots.shot? pid).bind (·.code)).getD 0) fun x hx =>
        books.children.ended_of_isReaped
          (reaped x.pid (pids ▸ List.mem_map_of_mem hx))
    rw [Shots.codes, pids, List.map_map]
    exact gathered
  | _ => cases reply_eq

end Shop

/-- A command that runs the tool looks up the artifact, and fails or makes one call. -/
theorem Command.run_run (post : Post) (text : String) :
    ((Command.run text).perform post).run = .look fun h =>
      match h.location.artifactPath with
      | .error t => .done (.error t)
      | .ok artifact => .call (.oneShot artifact post.dir text) .done := by
  simp only [Command.perform, Conduct.oneShot, Conduct.run_bind, Conduct.run_house,
    Routine.bind_look, Routine.bind_done, Conduct.onward_ok, Conduct.run_ofExcept]
  congr 1
  funext h
  cases h.location.artifactPath <;> rfl

/-- Single commands are accounted for, whoever launches them and waits for them, in any order. A
call that raises an error has done nothing. A call that launches a command has created one process
with the words of the command, and its reaper. Every process is on the list until it is reaped. A
call that waits for processes returns when all that were there have ended, with the exit codes of
those that were not reaped and of those that were still on the list. -/
theorem one_shots_accounted {h : House} (fresh : h.shots = {})
    (unspawned : launches h.trace = []) {w : Shop} (reach : Shop.Reaches (.opening h) w) :
    (∀ (post : Post) (text : String), ((Command.run text).perform post).run = .look fun h =>
      match h.location.artifactPath with
      | .error t => .done (.error t)
      | .ok artifact => .call (.oneShot artifact post.dir text) .done) ∧
    (w.called.Nodup ∧ w.returned.Nodup ∧ w.returned ⊆ w.called) ∧ Shop.Listing w ∧
    ∀ later d earlier id reply, w.done = later ++ d :: earlier →
      d.returned? = some (id, reply) → Shop.Account later d earlier id reply := by
  have books := Shop.Books.of_reaches fresh unspawned reach
  refine ⟨Command.run_run, ⟨books.calls.nodup, books.calls.returned_nodup, fun id hid => ?_⟩,
    books.listing, fun later d earlier id reply done returned =>
      Shop.account fresh unspawned reach done returned⟩
  exact books.calls.settled.mem_iff.mpr (List.mem_append_left _ hid)

/-! ## A run -/

/-- What is ready is run. -/
def Shop.run (w : Shop) (j : OneShot.Job) (a : OneShot.Action) : Shop :=
  { w with jobs := w.jobs.erase j }.perform (.shot a)

/-- A command is launched, and another finds no artifact. -/
def launchedOne : Shop :=
  let w := (Shop.opening furnished).perform
    (.begin 1 (.oneShot ⟨.here, ["t"]⟩ ⟨.here, []⟩ "build"))
  let w := w.run (.resume 1) (.launched 1 (.ok 7) w.house.extra)
  w.perform (.begin 2 (.oneShot ⟨.here, ["u"]⟩ ⟨.here, []⟩ "build"))

/-- A call waits until the process has ended. -/
def waitedFor : Shop :=
  let w := launchedOne.perform (.begin 3 .awaitOneShots)
  let w := w.perform (.shot (.exit 7 5))
  let w := w.run (.reap 7) (.reap 7)
  let w := w.run (.count 3) (.count 3)
  w.run (.resume 3) (.resume 3)

theorem reaches_waitedFor : Shop.Reaches (.opening furnished) waitedFor := by
  have first : Shop.Reaches (.opening furnished) launchedOne := by
    refine .head (.invoke 1 (by decide) _ _ _) (.head
      (.job (j := .resume 1) (by decide +kernel) (.spawned (by decide +kernel) (.ok 7)) ?_)
      (.single (.invoke 2 (by decide +kernel) _ _ _)))
    rintro _ ⟨⟩
    decide +kernel
  have child : (launchedOne.perform (.begin 3 .awaitOneShots)).house.shots.shot? 7 =
      some { pid := 7, command := Shell.join ["java", "-jar", "t", "build"] } := by
    decide +kernel
  refine first.trans (.head (.await 3 (by decide +kernel)) (.head
    (.exit child rfl 5) (.head
    (.job (j := .reap 7) (by decide +kernel) (.reap 7) ?_) (.head
    (.job (j := .count 3) (by decide +kernel) (.count 3) ?_) (.single
    (.job (j := .resume 3) (by decide +kernel) (.counted (by decide +kernel)) ?_))))))
  all_goals rintro _ ⟨⟩

theorem one_shots_accounted_waitedFor :
    Shop.Reaches (.opening furnished) waitedFor ∧ waitedFor.returned = [3, 2, 1] ∧
    Shop.Listing waitedFor ∧ ∃ later d earlier, waitedFor.done = later ++ d :: earlier ∧
      d.returned? = some (3, .ok (.codes [5])) ∧
      Shop.Account later d earlier 3 (.ok (.codes [5])) := by
  have account := one_shots_accounted rfl rfl reaches_waitedFor
  exact ⟨reaches_waitedFor, by decide +kernel, account.2.2.1, [], _, _, rfl, rfl,
    account.2.2.2 [] _ _ _ _ rfl rfl⟩

end ToolHost

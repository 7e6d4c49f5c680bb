import Mathlib.Tactic
import ToolHost.OneShot

/-!
# One process that one call waits for

What the bookkeeping of single commands does while there is one process, and at most one call that
waits for it.
-/
namespace ToolHost.OneShot.Shots

open Machine (Path)

variable {x : Shot} {p : Pending} {v : Vigil} {vs : List Vigil} {id : CallId} {pid : Pid}
  {code : Int}

/-- The process and those who wait. -/
def watched (x : Shot) (vs : List Vigil) : Shots := { shots := [x], vigils := vs }

theorem shot?_watched (number : x.pid = pid) : (watched x vs).shot? pid = some x := by
  simp [watched, shot?, number]

theorem setShot_watched (y : Shot) (number : x.pid = y.pid) :
    (watched x vs).setShot y = watched y vs := by
  simp [watched, setShot, number]

theorem launched_ok (argv : List String) (dir : Path) (extra : Machine.Variables) :
    ({ pending := [⟨id, argv, dir⟩] } : Shots).act (.launched id (.ok pid) extra) =
      { shots := watched { pid, command := Shell.join argv } []
        jobs := [.reap pid]
        trace := [.launched (Shell.join argv) pid dir.text,
          .spawned false pid argv dir.text extra]
        returned := some (id, .launched ⟨Shell.join argv, pid, dir.text⟩) } := by
  simp [act, launched, watched]

theorem await_watched (listed : x.isListed = true) (reaper : x.reaper ≠ .done) :
    (watched x []).act (.await id) = { shots := watched x [⟨id, [x.pid], 1⟩] } := by
  simp [act, await, watched, Shots.listed, listed, reaper]

/-- A process that runs is waited for. -/
theorem reap_running (vs : List Vigil) (number : x.pid = pid) (reaper : x.reaper ≠ .done) (runs : x.code = none) :
    (watched x vs).act (.reap pid) = { shots := watched { x with reaper := .asleep } vs } := by
  rw [act, reap, shot?_watched number]
  simp only [runs]
  cases h : x.reaper with
  | done => exact absurd h reaper
  | _ => simp [setShot_watched]

/-- A process that has ended is reaped, and the call that waits for it is told. -/
theorem reap_ended (id : CallId) (number : x.pid = pid) (reaper : x.reaper ≠ .done) (ended : x.code = some code) :
    (watched x [⟨id, [pid], 1⟩]).act (.reap pid) =
      { shots := watched { x with reaper := .done } [⟨id, [pid], 1⟩]
        jobs := [.forget pid, .count id]
        trace := [.reaped x.command pid code] } := by
  rw [act, reap, shot?_watched number]
  simp only [ended]
  cases h : x.reaper with
  | done => exact absurd h reaper
  | _ => simp [setShot, watched]

theorem exit_watched (vs : List Vigil) (code : Int) (number : x.pid = pid) (runs : x.code = none) :
    (watched x vs).act (.exit pid code) =
      { shots := watched { x with
          code := some code, reaper := if x.reaper = .asleep then .woken else x.reaper } vs
        jobs := if x.reaper = .asleep then [.reap pid] else []
        trace := [.exited pid code] } := by
  rw [act, exit, shot?_watched number]
  simp [runs, setShot_watched]

theorem forget_watched (vs : List Vigil) (number : x.pid = pid) :
    (watched x vs).act (.forget pid) = { shots := watched { x with isListed := false } vs } := by
  rw [act, forget, shot?_watched number]
  simp [setShot_watched]

theorem count_watched (x : Shot) (id : CallId) (pid : Pid) :
    (watched x [⟨id, [pid], 1⟩]).act (.count id) =
      { shots := watched x [⟨id, [pid], 0⟩], jobs := [.resume id] } := by
  simp [act, count, watched]

/-- The call that has counted its process gets the exit code. -/
theorem resume_watched (id : CallId) (number : x.pid = pid) (ended : x.code = some code) :
    (watched x [⟨id, [pid], 0⟩]).act (.resume id) =
      { shots := watched x [], returned := some (id, .codes [code]) } := by
  have hcodes : (watched x [⟨id, [pid], 0⟩]).codes [pid] = [code] := by
    rw [codes, List.map_singleton, shot?_watched number]
    simp [ended]
  simp [act, resume, watched, ← hcodes]

end ToolHost.OneShot.Shots

import Mathlib
import ToolHost.Proofs.Run

/-!
# One process for each name

As long as nobody gives up, the calls that start and stop sessions of a name come inside its latch
one after another, in the order in which they came to it, and each finds recorded what the one
before has left. At most one process of the name runs, and somebody answers for it: the session
that is recorded, or a call inside the latch that has taken the record away and sees the process to
its end.
-/
namespace ToolHost

/-- The calls of a name come inside its latch one after another. -/
structure House.Serial (h : House) (name : SessionName) : Prop where
  occupied : ∃ o, occupancy (passages name h.trace) = some o
  served : arrivals (passages name h.trace) =
    entries (passages name h.trace) ++ (h.room name).waiting.map (·.id)

/-- A call inside the latch sees a process to its end. -/
def Session.Room.SeenOff (r : Session.Room) (pid : Pid) : Prop :=
  r.recorded = none ∧ ∃ c ∈ r.callers, ∃ n, c.latch = some n ∧ r.latch = some n ∧
    (r.latchAt n).isHeld ∧ (c.phase = .grace pid ∨ c.phase = .reaping pid)

/-- At most one process of a name runs, and somebody answers for it. -/
structure House.Manned (h : House) (name : SessionName) : Prop where
  alone : ∀ p q, (h.room name).Runs p → (h.room name).Runs q → p = q
  owner : ∀ p, (h.room name).Runs p → (h.room name).recorded = some p ∨ (h.room name).SeenOff p
  unstopped : ∀ p, (h.room name).recorded = some p → ((h.room name).child p).isStopped = false

namespace Run

variable {ds : List Deed} {h : House}

theorem serial (run : Run ds h) (calm : Calm ds) (name : SessionName) : h.Serial name := by
  have passed := (run.course name).passed (calm.room name)
  rw [← run.passages_eq] at passed
  obtain ⟨o, ho, _⟩ := passed.occupied
  exact ⟨⟨o, ho⟩, by simpa [Session.Focus.before?] using passed.served⟩

theorem manned (run : Run ds h) (calm : Calm ds) (name : SessionName) : h.Manned name where
  alone _ _ hp hq :=
    (run.course name).sound.runs_unique ((run.course name).tidy (calm.room name)) hp hq
  owner _ hp := (run.course name).sound.owner ((run.course name).tidy (calm.room name)) hp
  unstopped := (run.course name).recent.unstopped

/-- A call that creates processes and returns gives the session that is recorded just then. -/
theorem gives (run : Run ds h) {d : Deed} (hd : d ∈ ds) {name : SessionName} {b : Session.Action}
    (ha : d.action.session? = some (name, b)) {id : CallId} {reply : Reply}
    (returned : (d.house.act d.action).returned = some (id, .ok reply))
    {q : Session.Request} (hq : (id, name, q) ∈ begun ds) (launches : q.launches) :
    ∃ v, reply = .session v ∧ ((d.house.act d.action).house.room name).Gives v := by
  obtain ⟨later, earlier, rfl⟩ := List.append_of_mem hd
  obtain ⟨before, call, birth⟩ := run.back
  obtain ⟨e, he, hr⟩ := (d.house.returned_act ha).mp returned
  obtain ⟨p, hp, fair⟩ := (run.course name).fair (mem_deedsAt.mpr ⟨d, hd, b, ha, rfl⟩) he
  cases run.begun_unique hq (mem_calls_deedsAt.mp hp)
  rw [before.room_act call birth ha, if_pos rfl]
  cases e with
  | session v =>
    cases hr
    exact ⟨v, rfl, fair.2⟩
  | done =>
    rw [fair] at launches
    cases launches
  | _ => cases hr

end Run

/-- A session is started and stopped, and started again by a call that waits for that. -/
def revival : List Action :=
  [.begin 1 (.session (.text "x") (.start ⟨.here, []⟩)),
    .room (.text "x") (.launched 1 (.ok ⟨7, {}⟩)), .begin 2 (.session (.text "x") .stop),
    .begin 3 (.session (.text "x") (.start ⟨.here, []⟩)), .room (.text "x") (.relay 7),
    .room (.text "x") (.resume 2), .room (.text "x") (.resume 3),
    .room (.text "x") (.launched 3 (.ok ⟨8, {}⟩))]

/-- A session is restarted by a call that gives up while the process has its time, and is started
once more. -/
def abandonment : List Action :=
  [.begin 1 (.session (.text "x") (.start ⟨.here, []⟩)),
    .room (.text "x") (.launched 1 (.ok ⟨7, {}⟩)),
    .begin 2 (.session (.text "x") (.restart ⟨.here, []⟩)), .room (.text "x") (.cancel 2),
    .room (.text "x") (.resume 2), .begin 3 (.session (.text "x") (.start ⟨.here, []⟩)),
    .room (.text "x") (.launched 3 (.ok ⟨8, {}⟩))]

-- Where somebody gives up, nobody may be left to answer for a process: the record is gone, and the
-- call that had taken it away as well. The next start then creates a second one beside it.
example : ((play [] furnished abandonment).2.room (.text "x")).pids = [7, 8] ∧
    (((play [] furnished abandonment).2.room (.text "x")).child 7).code = none ∧
    (((play [] furnished abandonment).2.room (.text "x")).child 8).code = none ∧
    ((play [] furnished abandonment).2.room (.text "x")).recorded = some 8 ∧
    ((play [] furnished abandonment).2.room (.text "x")).callers = [] := by
  decide +kernel

end ToolHost

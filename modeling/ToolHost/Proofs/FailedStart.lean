import Mathlib
import ToolHost.Proofs.DisplayOrder
import ToolHost.Proofs.Session.Aftermath
import ToolHost.Proofs.Session.Solo

/-!
# Starts that fail

A start or a restart may fail before or after the process that was there has been stopped, for want
of an artifact or because none can be created. Whatever the reason, nothing of the name is left but
its display, and what comes then goes on as if there had never been a session.
-/
namespace ToolHost

open Session (Course)

/-- No session is recorded, and every process that there ever was has ended, and its relay too. -/
structure Session.Room.Absent (r : Session.Room) : Prop where
  recorded : r.recorded = none
  ended : ∀ pid ∈ r.pids, (r.child pid).hasEnded
  relayed : ∀ pid ∈ r.pids, (r.child pid).relay.isDone

/-- A call does not wait, and only those that do are counted at the latch. -/
structure Session.Room.IsLeftBy (r : Session.Room) (id : CallId) : Prop where
  gone : id ∉ r.ids
  users : r.users = Session.tally r.atLatch

/-- What is done with a call in the room of a name leaves the display there and all other rooms as
they are. -/
def Deed.SparesOthers (d : Deed) (name : SessionName) (id : CallId) : Prop :=
  ∀ b, d.action.session? = some (name, b) → b.caller? = some id →
    ((d.house.act d.action).house.room name).display = (d.house.room name).display ∧
      ∀ other, other ≠ name → (d.house.act d.action).house.room other = d.house.room other

theorem Session.Room.Absent.of_vacant {r : Session.Room} (h : Session.Stage.vacant.Holds r) :
    r.Absent where
  recorded := h.1
  ended pid hp := (Session.Room.over_of_not_works hp (h.2 pid)).1
  relayed pid hp := (Session.Room.over_of_not_works hp (h.2 pid)).2

namespace Run

variable {later earlier : List Deed} {d : Deed} {h : House} {name : SessionName}
  {b : Session.Action} {id : CallId} {t : Trouble}

/-- A call that fails has got no session before. -/
theorem not_given (run : Run (d :: earlier) h) (ha : d.action.session? = some (name, b))
    (failed : (d.house.act d.action).returned = some (id, .error t)) {e : Deed}
    (he : e ∈ d :: earlier) {a : Session.Action} (hb : e.action.session? = some (name, a))
    (v : Session.View) :
    ((e.house.room name).act e.house.setting a).returned ≠ some (id, .session v) := by
  intro given
  obtain ⟨x, failed, hx⟩ := (d.house.returned_act ha).mp failed
  rcases List.mem_cons.mp he with rfl | he
  · rw [ha] at hb
    cases hb
    rw [given] at failed
    cases failed
    cases hx
  · have c : Course name ([] ++ ⟨d.house.room name, d.house.setting, b⟩ :: deedsAt name earlier)
        (h.room name) := deedsAt_cons_self ha earlier ▸ run.course name
    exact c.not_ended_before failed ⟨_, mem_deedsAt.mpr ⟨e, he, a, hb, rfl⟩, _, given⟩

/-- Whatever is done with a call that fails in the end leaves the sinks and the other names as they
are. -/
theorem sparesOthers (run : Run (d :: earlier) h) (ha : d.action.session? = some (name, b))
    (failed : (d.house.act d.action).returned = some (id, .error t)) {e : Deed}
    (he : e ∈ d :: earlier) : e.SparesOthers name id := by
  intro a hb about
  have given := run.not_given ha failed he hb
  obtain ⟨xs, ys, split⟩ := List.append_of_mem he
  rw [split] at run
  obtain ⟨before, call, birth⟩ := run.back
  refine ⟨?_, fun other ne => ?_⟩
  · rw [before.room_act call birth hb, if_pos rfl]
    rcases (before.course name).sound.display_act e.house.setting about with same | ⟨v, hv⟩
    · exact same
    · exact absurd hv (given v)
  · rw [before.room_act call birth hb, if_neg ne]

/-- Where a call that starts or restarts has failed, nothing is recorded, nothing runs, no relay
goes on, and nobody waits inside the latch. -/
theorem vacant_of_failed (run : Run (d :: earlier) h) (calm : Calm (d :: earlier))
    (ha : d.action.session? = some (name, b))
    (failed : (d.house.act d.action).returned = some (id, .error t)) {q : Session.Request}
    (began : (id, name, q) ∈ begun (d :: earlier)) (launches : q.launches) :
    Session.Stage.vacant.Holds ((d.house.room name).act d.house.setting b).room ∧
      ((d.house.room name).act d.house.setting b).room.insiders = 0 := by
  obtain ⟨x, ended, hx⟩ := (d.house.returned_act ha).mp failed
  have mem : ⟨d.house.room name, d.house.setting, b⟩ ∈ deedsAt name (d :: earlier) :=
    mem_deedsAt.mpr ⟨d, List.mem_cons_self, b, ha, rfl⟩
  have other : q.isLine = false := by cases q <;> first | rfl | cases launches
  rcases (run.course name).cleared (calm.room name) mem ended (mem_calls_deedsAt.mpr began) other
    with ⟨-, v, rfl⟩ | ⟨-, vacant, outside⟩
  · cases hx
  · exact ⟨vacant, outside⟩

end Run

/-- A session is restarted, and its process ends in the time that it has. -/
def vainRestart : List Action :=
  [.begin 1 (.session (.text "x") (.start ⟨.here, []⟩)),
    .room (.text "x") (.launched 1 (.ok ⟨7, {}⟩)), .room (.text "x") (.relay 7),
    .begin 2 (.session (.text "x") (.restart ⟨.here, []⟩)), .room (.text "x") (.exit 7 0),
    .room (.text "x") (.relay 7), .room (.text "x") (.wake 2), .room (.text "x") (.resume 2)]

/-- But no process can be created. -/
def failedLaunch : Deed :=
  ⟨(play [] furnished vainRestart).2, .room (.text "x") (.launched 2 (.error .badValue))⟩

/-- Then the session is started again. -/
def retry : List Action :=
  [.begin 3 (.session (.text "x") (.start ⟨.here, []⟩)),
    .room (.text "x") (.launched 3 (.ok ⟨8, {}⟩))]

end ToolHost

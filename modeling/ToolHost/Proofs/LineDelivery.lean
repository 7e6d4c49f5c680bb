import Mathlib
import ToolHost.Proofs.Run

/-!
# Lines reach the right process

What a process finds on its input are whole lines, each of a call of its own that was made for the
name of that process. A call that returns has written its line once, to the process that was
recorded and live just then; one that finds no live session has written nothing and never will; and
nothing is written to a process that somebody has begun to stop. This holds however the calls, the
starts and stops and the ends of processes come in between each other.
-/
namespace ToolHost

/-- What has happened with a deed in the room that it is about, the latest first. -/
def Deed.news (d : Deed) : List Happening :=
  match d.action.session? with
  | some (name, b) => ((d.house.room name).act d.house.setting b).trace
  | none => []

theorem Deed.news_eq {d : Deed} {name : SessionName} {b : Session.Action}
    (ha : d.action.session? = some (name, b)) :
    d.news = ((d.house.room name).act d.house.setting b).trace := by
  rw [news, ha]

/-- A deed in the room of a name wrote a piece to the process that was recorded and live before and
after it, and that nobody had begun to stop. -/
structure Deed.Wrote (d : Deed) (earlier : List Deed) (name : SessionName) (w : Write) : Prop where
  wrote : w ∈ writes d.news
  about : ∃ b, d.action.session? = some (name, b)
  before : (d.house.room name).Targets w.pid
  after : ((d.house.act d.action).house.room name).Targets w.pid
  unstopped : ∀ e ∈ d :: earlier, ((e.house.room name).child w.pid).isStopped = false

theorem Session.Room.Targets.unstopped {r : Session.Room} {pid : Pid} (h : r.Targets pid) :
    (r.child pid).isStopped = false := by
  have live := h.live
  rw [Session.Child.isLive, Bool.and_eq_true] at live
  simpa using live.1

namespace Run

variable {ds : List Deed} {h : House}

/-- Whatever was written in the room of a name was written to the right process. -/
theorem wrote (run : Run ds h) {name : SessionName} {w : Write}
    (hw : w ∈ writes (Session.log (deedsAt name ds))) :
    ∃ later d earlier, ds = later ++ d :: earlier ∧ d.Wrote earlier name w := by
  obtain ⟨xs, e, ys, he, here⟩ := Session.exists_deed hw
  have mem : e ∈ deedsAt name ds := by simp [he]
  obtain ⟨before, after⟩ := (run.course name).targets mem here
  obtain ⟨d, hd, b, ha, rfl⟩ := mem_deedsAt.mp mem
  obtain ⟨later, earlier, rfl⟩ := List.append_of_mem hd
  obtain ⟨past, call, birth⟩ := run.back
  have room := past.room_act call birth ha name
  rw [if_pos rfl] at room
  refine ⟨later, d, earlier, rfl, ?_, ⟨b, ha⟩, before, room ▸ after, ?_⟩
  · rw [Deed.news, ha]
    exact here
  · intro k hk
    rcases List.mem_cons.mp hk with rfl | hk
    · exact before.unstopped
    · by_contra stopped
      have stopped : ((k.house.room name).child w.pid).isStopped := by simpa using stopped
      have late := past.stays_stopped hk stopped
      rw [before.unstopped] at late
      cases late

/-- What a process finds on its input are the lines of calls that were made for its name. -/
theorem stdin_eq (run : Run ds h) (pid : Pid) : ∃ lines : List (CallId × String),
    stdin pid (writes h.trace) = lines.flatMap (pieceOf ·.2) ∧ (lines.map (·.1)).Nodup ∧
      ∀ l ∈ lines, ∃ name, (l.1, name, .send l.2) ∈ begun ds ∧ pid ∈ (h.room name).pids := by
  have whole : ∀ ws : List Write, (∀ w ∈ ws, w ∈ writes h.trace ∧ w.pid = pid) →
      ∃ lines : List (CallId × String), ws.flatMap (·.piece) = lines.flatMap (pieceOf ·.2) ∧
        lines.map (·.1) = ws.map (·.call) ∧
        ∀ l ∈ lines, ∃ name, (l.1, name, .send l.2) ∈ begun ds ∧ pid ∈ (h.room name).pids := by
    intro ws known
    induction ws with
    | nil => exact ⟨[], rfl, rfl, fun _ hl => nomatch hl⟩
    | cons w ws ih =>
      obtain ⟨lines, pieces, ids, calls⟩ := ih fun v hv => known v (List.mem_cons_of_mem _ hv)
      obtain ⟨hw, rfl⟩ := known w List.mem_cons_self
      obtain ⟨name, hn⟩ := run.exists_name hw
      obtain ⟨line, hl, hp⟩ := (run.course name).known w hn
      refine ⟨(w.call, line) :: lines, by simp [hp, pieces], by simp [ids], ?_⟩
      intro l hm
      rcases List.mem_cons.mp hm with rfl | hm
      · exact ⟨name, mem_calls_deedsAt.mp hl, (run.course name).pids_of_sublist.1 w hn⟩
      · exact calls l hm
  obtain ⟨lines, pieces, ids, calls⟩ :=
    whole ((writes h.trace).reverse.filter (·.pid = pid)) fun w hw => by
      obtain ⟨hw, hp⟩ := List.mem_filter.mp hw
      exact ⟨List.mem_reverse.mp hw, by simpa using hp⟩
  refine ⟨lines, pieces, ?_, calls⟩
  rw [ids]
  refine List.Nodup.sublist (List.filter_sublist.map _) ?_
  rw [List.map_reverse, List.nodup_reverse]
  exact run.once

/-- A line that returned is written. -/
theorem exists_write (run : Run ds h) {name : SessionName} {id : CallId} {line : String}
    (sent : (id, name, .send line) ∈ begun ds) {reply : Reply}
    (returned : Returned ds name id (.ok reply)) :
    ∃ w ∈ writes (Session.log (deedsAt name ds)), w.call = id ∧ w.piece = pieceOf line := by
  obtain ⟨e, d, hd, he, hr⟩ := returned.ending
  have good : e.isGood := by cases e <;> first | rfl | cases hr
  exact (run.course name).answered hd he good (mem_calls_deedsAt.mpr sent)

/-- A line that fails for want of a live session is not written. -/
theorem refused (run : Run ds h) {d : Deed} (hd : d ∈ ds) {name : SessionName} {b : Session.Action}
    (ha : d.action.session? = some (name, b)) {id : CallId} {x : Failure}
    (returned : (d.house.act d.action).returned = some (id, .error (.failure x)))
    (dead : (d.house.room name).live? = none) (untaken : ∀ broken, b ≠ .drained id broken) :
    id ∉ (writes h.trace).map (·.call) := by
  obtain ⟨e, he, hr⟩ := (d.house.returned_act ha).mp returned
  have failed : e = .failed (.failure x) := by
    cases e <;> cases hr
    rfl
  subst failed
  have mem := mem_deedsAt.mpr ⟨d, hd, b, ha, rfl⟩
  have silent := (run.course name).silent mem he dead untaken
  obtain ⟨q, hq, _⟩ := (run.course name).fair mem he
  intro hm
  obtain ⟨w, hw, rfl⟩ := List.mem_map.mp hm
  exact silent (List.mem_map_of_mem (run.writes_of_name hw (mem_calls_deedsAt.mp hq)))

end Run

/-- In every house that a run leads to: the input of a process is made of whole lines, each of a
call of its own; every piece went to the process that was recorded and live when it was written and
that nobody had begun to stop; a line that returned was written exactly once; and one that failed
where no session was live was not written at all. -/
theorem lines_delivered {ds : List Deed} {h : House} (run : Run ds h) :
    (∀ pid, ∃ lines : List (CallId × String),
      stdin pid (writes h.trace) = lines.flatMap (pieceOf ·.2) ∧ (lines.map (·.1)).Nodup ∧
        ∀ l ∈ lines, ∃ name, (l.1, name, .send l.2) ∈ begun ds ∧ pid ∈ (h.room name).pids) ∧
    (∀ w ∈ writes h.trace, ∃ name later d earlier,
      ds = later ++ d :: earlier ∧ d.Wrote earlier name w) ∧
    (∀ name id line reply, (id, name, .send line) ∈ begun ds → Returned ds name id (.ok reply) →
      ((writes h.trace).map (·.call)).count id = 1 ∧
        ∃ w ∈ writes h.trace, w.call = id ∧ w.piece = pieceOf line ∧
          ∃ later d earlier, ds = later ++ d :: earlier ∧ d.Wrote earlier name w) ∧
    ∀ d ∈ ds, ∀ name b, d.action.session? = some (name, b) →
      ∀ id x, (d.house.act d.action).returned = some (id, .error (.failure x)) →
        (d.house.room name).live? = none → (∀ broken, b ≠ .drained id broken) →
          id ∉ (writes h.trace).map (·.call) := by
  refine ⟨run.stdin_eq, ?_, ?_, ?_⟩
  · intro w hw
    obtain ⟨name, hn⟩ := run.exists_name hw
    exact ⟨name, run.wrote hn⟩
  · intro name id line reply sent returned
    obtain ⟨w, hw, rfl, piece⟩ := run.exists_write sent returned
    have mem := (run.writes_sublist name).subset hw
    exact ⟨List.count_eq_one_of_mem run.once (List.mem_map_of_mem mem), w, mem, rfl, piece,
      run.wrote hw⟩
  · exact fun _ hd _ _ ha _ _ returned dead untaken => run.refused hd ha returned dead untaken

/-- A line waits for a session to be started, and another one for it to be stopped. -/
def exchange : List Action :=
  [.begin 1 (.session (.text "x") (.start ⟨.here, []⟩)), .begin 2 (.session (.text "x") (.send "a")),
    .room (.text "x") (.launched 1 (.ok ⟨7, {}⟩)), .room (.text "x") (.resume 2),
    .begin 3 (.session (.text "x") .stop), .begin 4 (.session (.text "x") (.send "b")),
    .room (.text "x") (.relay 7), .room (.text "x") (.resume 3), .room (.text "x") (.resume 4)]

theorem lines_delivered_exchange :
    ((writes (play [] furnished exchange).2.trace).map (·.call)).count 2 = 1 ∧
    4 ∉ (writes (play [] furnished exchange).2.trace).map (·.call) := by
  have run := Run.furnished.play exchange (by decide +kernel)
  obtain ⟨_, _, good, refused⟩ := lines_delivered run
  refine ⟨(good (.text "x") 2 "a" .nothing ?_ ?_).1, ?_⟩
  · decide +kernel
  · exact ⟨(play [] furnished exchange).1.get ⟨5, by decide +kernel⟩, List.get_mem _ _,
      .resume 2, rfl, rfl⟩
  · refine refused ((play [] furnished exchange).1.get ⟨0, by decide +kernel⟩) (List.get_mem _ _)
      (.text "x") (.resume 4) rfl 4 (.noActiveSession (.text "x")) rfl rfl ?_
    exact fun _ e => nomatch e

end ToolHost

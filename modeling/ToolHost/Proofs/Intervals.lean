import Mathlib
import ToolHost.Proofs.Instants
import ToolHost.Proofs.Session.LineEnds

/-!
# From one instant to another

What is written, recorded and closed between two instants of a routine hangs on the calls that begin
in between. Nothing is written but by lines; a stop closes its session; and a line that finds its
process alive is written to it at once, and then delivered or refused.
-/
namespace ToolHost

open Session (Room Turn)

/-! ## Replies -/

namespace Run

variable {ds later earlier : List Deed} {d : Deed} {h : House} {name n : SessionName} {id : CallId}

/-- A call is answered in the room in which it was made. -/
theorem name_of_returned (run : Run ds h) {q : Session.Request} (began : (id, name, q) ∈ begun ds)
    {reply : Except Trouble Reply} (back : Returned ds n id reply) : n = name := by
  obtain ⟨e, x, hx, returned, -⟩ := back.ending
  obtain ⟨-, p, hp⟩ := (run.course n).gone hx returned
  exact congrArg Prod.fst (run.begun_unique (mem_calls_deedsAt.mp hp) began)

/-- A call that comes to its end has not come to it before. -/
theorem not_returned_before (run : Run (later ++ d :: earlier) h) {b : Session.Action}
    (ha : d.action.session? = some (name, b)) {reply : Except Trouble Reply}
    (returned : (d.house.act d.action).returned = some (id, reply)) (other : Except Trouble Reply) :
    ¬ Returned earlier name id other := by
  intro before
  obtain ⟨e, he, -⟩ := (d.house.returned_act ha).mp returned
  have course := run.course name
  rw [deedsAt_split ha] at course
  exact course.not_ended_before he (Returned.ended ⟨other, before⟩)

/-- A call has only one reply. -/
theorem reply_unique (run : Run ds h) {r r' : Except Trouble Reply} (x : Returned ds name id r)
    (y : Returned ds name id r') : r = r' := by
  obtain ⟨d, hd, b, ha, returned⟩ := x
  obtain ⟨d', hd', b', ha', returned'⟩ := y
  obtain ⟨later, earlier, rfl⟩ := List.append_of_mem hd
  rcases List.mem_append.mp hd' with after | hd'
  · obtain ⟨us, vs, rfl⟩ := List.append_of_mem after
    rw [List.append_assoc] at run
    exact absurd ⟨d, by simp, b, ha, returned⟩ (run.not_returned_before ha' returned' r)
  · rcases List.mem_cons.mp hd' with rfl | before
    · exact (Prod.mk.inj (Option.some.inj (returned.symm.trans returned'))).2
    · exact absurd ⟨d', before, b', ha', returned'⟩ (run.not_returned_before ha returned r')

/-! ## Writing -/

/-- All that was written was written in some deed. -/
theorem writes_eq (run : Run ds h) : writes h.trace = ds.flatMap (writes ·.news) := by
  induction run with
  | start rooms roster trace => rw [trace]; rfl
  | act run a call birth ih =>
    rename_i ds h
    rw [List.flatMap_cons, ← ih]
    cases ha : a.session? with
    | none =>
      obtain ⟨xs, trace, aside⟩ := (h.act_aside ha).trace
      rw [trace, writes_append, writes_of_aside aside, Deed.news, ha]
      rfl
    | some x =>
      obtain ⟨name, b⟩ := x
      rw [trace_act ha, writes_append, Deed.news_eq ha]
  | aside run aside ih =>
    obtain ⟨xs, trace, asides⟩ := aside.trace
    rw [trace, writes_append, writes_of_aside asides, ih]
    rfl

/-- Whoever writes has begun as a line, and has not come to its end. -/
theorem writer (run : Run (later ++ d :: earlier) h) {w : Write} (hw : w ∈ writes d.news) :
    ∃ name line, (w.call, name, .send line) ∈ begun (later ++ d :: earlier) ∧
      ∀ r, ¬ Returned earlier name w.call r := by
  cases ha : d.action.session? with
  | none =>
    rw [Deed.news, ha] at hw
    cases hw
  | some x =>
    obtain ⟨name, b⟩ := x
    rw [Deed.news_eq ha] at hw
    have course := run.course name
    rw [deedsAt_split ha] at course
    obtain ⟨line, begins, -⟩ := course.known w (by
      rw [Session.log, List.flatMap_append, writes_append, List.flatMap_cons, writes_append]
      exact List.mem_append_right _ (List.mem_append_left _ hw))
    rw [← deedsAt_split ha] at begins
    exact ⟨name, line, mem_calls_deedsAt.mp begins,
      fun r back => course.not_ended_of_writes hw (Returned.ended ⟨r, back⟩)⟩

/-- Nothing is written if every line that has begun had come to its end, or had been written. -/
theorem unwritten {es : List Deed} (run : Run (es ++ ds) h)
    (past : ∀ id name line, (id, name, .send line) ∈ begun (es ++ ds) →
      (∃ r, Returned ds name id r) ∨ ∃ w ∈ ds.flatMap (writes ·.news), w.call = id) :
    es.flatMap (writes ·.news) = [] := by
  rw [List.flatMap_eq_nil_iff]
  intro d hd
  rw [List.eq_nil_iff_forall_not_mem]
  intro w hw
  obtain ⟨later, earlier, rfl⟩ := List.append_of_mem hd
  have whole : Run (later ++ d :: (earlier ++ ds)) h := by simpa using run
  obtain ⟨name, line, begins, going⟩ := whole.writer hw
  rcases past w.call name line (by simpa using begins) with ⟨r, back⟩ | ⟨v, hv, same⟩
  · exact going r (back.mono (List.subset_append_right _ _))
  · have once := run.once
    rw [run.writes_eq, List.flatMap_append, List.map_append] at once
    have mem : w ∈ (later ++ d :: earlier).flatMap (writes ·.news) :=
      List.mem_flatMap.mpr ⟨d, hd, hw⟩
    exact List.disjoint_of_nodup_append once (List.mem_map_of_mem mem)
      (same ▸ List.mem_map_of_mem hv)

end Run

/-! ## Instants -/

namespace Instant

variable {Fair : Deed → Prop} {m m' : Instant Fair} {es : List Deed} {name : SessionName}
  {q : Session.Request} {line : String} {c : Call} {r : Except Trouble Reply} {pid : Pid}

/-- Nobody waits. -/
theorem callers_eq (m : Instant Fair) (name : SessionName) : (m.house.room name).callers = [] :=
  m.returned.callers m.run name

theorem course_append (after : m'.done = es ++ m.done) (name : SessionName) :
    Session.Course name (deedsAt name es ++ deedsAt name m.done) (m'.house.room name) := by
  rw [← deedsAt_append, ← after]
  exact m'.run.course name

/-- Where no line begins in between nothing is written. -/
theorem writes_eq (after : m'.done = es ++ m.done)
    (none : ∀ x ∈ begun es, x.2.2.isLine = false) :
    writes m'.house.trace = writes m.house.trace := by
  have run := m'.run
  rw [after] at run
  have nothing := run.unwritten fun id name line begins => .inl ?_
  · rw [run.writes_eq, m.run.writes_eq, List.flatMap_append, nothing, List.nil_append]
  · rw [begun_append] at begins
    rcases List.mem_append.mp begins with begins | begins
    · cases none _ begins
    · exact m.returned _ begins

/-- As long as only lines begin, the same process stays recorded. -/
theorem recorded_eq (after : m'.done = es ++ m.done) (lines : ∀ x ∈ begun es, x.2.2.isLine) :
    (m'.house.room name).recorded = (m.house.room name).recorded :=
  (m.run.course name).recorded_eq (course_append after name) (m.callers_eq name)
    fun _ hp => lines _ (mem_calls_deedsAt.mp hp)

/-- As long as no start and no restart begins, a closed name stays closed. -/
theorem closed_of_closed (after : m'.done = es ++ m.done) (harmless : NoLaunch es)
    (closed : m.house.Closed name) : m'.house.Closed name :=
  (m.run.course name).stays_closed (course_append after name)
    (fun _ hp => harmless _ (mem_calls_deedsAt.mp hp)) closed

/-- A name under which nothing is recorded is closed. -/
theorem closed_of_recorded (m : Instant Fair) (recorded : (m.house.room name).recorded = none) :
    m.house.Closed name :=
  (m.run.course name).closed_of_ended (m.calm.room name) recorded
    fun id q hq _ => m.returned.ended name (id, q) hq

namespace Answered

/-- A call of a session is answered in its room, and no other begins before that. -/
theorem of_session (x : m.Answered (.session name q) r m') : ∃ id es d earlier b,
    m'.done = es ++ ⟨m.house, .begin id (.session name q)⟩ :: m.done ∧ begun es = [] ∧
      m'.done = d :: earlier ∧ d.action.session? = some (name, b) ∧
        (d.house.act d.action).returned = some (id, r) := by
  obtain ⟨done, acted, last, answers, returned⟩ := x
  rename_i id es earlier d
  have began : (id, name, q) ∈ begun m'.done := by
    rw [done, begun_append]
    exact List.mem_append_right _ ((begun_cons _ _).symm ▸ List.mem_cons_self)
  obtain ⟨⟨n, b⟩, ha⟩ := Option.isSome_iff_exists.mp answers
  obtain rfl := m'.run.name_of_returned began ⟨d, by simp [last], b, ha, returned⟩
  exact ⟨id, es, d, earlier, b, done, acted.begun_eq, last, ha, returned⟩

/-- A call of anything else is no call of a session, and no room answers it. -/
theorem of_other (x : m.Answered c r m') (other : c.demand? = none) :
    (∃ es, m'.done = es ++ m.done ∧ begun es = []) ∧
      ∃ d ∈ m'.done, d.action.session? = none ∧
        ∃ id, (d.house.act d.action).returned = some (id, r) := by
  obtain ⟨done, acted, last, answers, returned⟩ := x
  rename_i id es earlier d
  refine ⟨⟨es ++ [⟨m.house, .begin id c⟩], by rw [done]; simp, ?_⟩, d, by simp [last], ?_, id,
    returned⟩
  · rw [begun_append, acted.begun_eq]
    cases c <;> first | rfl | cases other
  · cases c <;> first | exact answers | cases other

/-- The call is all that begins, in the house of the instant at which it is made. -/
theorem begins (x : m.Answered (.session name q) r m') : ∃ id es, m'.done = es ++ m.done ∧
    begun es = [(id, name, q)] ∧ ⟨m.house, .begin id (.session name q)⟩ ∈ m'.done ∧
      Returned m'.done name id r := by
  obtain ⟨id, es, d, earlier, b, done, none, last, ha, returned⟩ := x.of_session
  refine ⟨id, es ++ [⟨m.house, .begin id (.session name q)⟩], by rw [done]; simp, ?_,
    by rw [done]; simp, d, by simp [last], b, ha, returned⟩
  rw [begun_append, none, begun_cons]
  rfl

theorem ends (x : m.Answered (.session name q) r m') :
    ∃ d earlier, m'.done = d :: earlier ∧ d.Ends earlier name q r := by
  obtain ⟨id, es, d, earlier, b, done, none, last, ha, returned⟩ := x.of_session
  refine ⟨d, earlier, last, id, b, ha, ?_, returned⟩
  rw [← last, done, begun_append]
  exact List.mem_append_right _ ((begun_cons _ _).symm ▸ List.mem_cons_self)

/-- A stop does not fail, and closes its name. -/
theorem closed (x : m.Answered (.session name .stop) r m') :
    r = .ok .nothing ∧ m'.house.Closed name := by
  obtain ⟨d, earlier, done, ends⟩ := x.ends
  have inTurn := m'.inTurn
  have run : Run ([] ++ m'.done) m'.house := m'.run
  have calm := m'.calm
  rw [done] at inTurn run calm
  exact InTurn.closed inTurn run calm ends fun _ _ h => nomatch h

/-- A start that does not fail gives the session that is recorded then. -/
theorem gives {dir : Machine.Path} {reply : Reply}
    (x : m.Answered (.session name (.start dir)) (.ok reply) m') :
    ∃ v, reply = .session v ∧ (m'.house.room name).recorded = some v.pid := by
  obtain ⟨d, earlier, done, id, b, ha, begins, returned⟩ := x.ends
  have run := m'.run
  rw [done] at run
  obtain ⟨v, rfl, gives⟩ := run.gives List.mem_cons_self ha returned begins rfl
  have run' : Run ([] ++ d :: earlier) m'.house := run
  obtain ⟨before, call, birth⟩ := run'.back
  have now := (before.act d.action call birth).course name
  rw [← now.room_unique (run.course name)] at gives
  exact ⟨v, rfl, gives.recorded⟩

/-- A line is delivered or refused. -/
theorem line_ends (x : m.Answered (.session name (.send line)) r m') :
    r = .ok .nothing ∨ r = .error (.failure (.noActiveSession name)) := by
  obtain ⟨id, es, d, earlier, b, done, none, last, ha, returned⟩ := x.of_session
  have whole := m'.run
  have calm := m'.calm.room name
  rw [done] at whole calm
  obtain ⟨before, call, birth⟩ := whole.back
  -- Where nobody waits the line is taken at once, or it waits to be.
  obtain ⟨-, deliver⟩ := m.run.act_send (e := ⟨m.house, .begin id (.session name (.send line))⟩)
    (m.callers_eq name) rfl
  obtain ⟨drains, now⟩ := Turn.draining_deliver (m.callers_eq name) id line
  rw [← deliver, (m.run.course name).name_eq] at now
  have room := before.room_act call birth rfl name
  rw [if_pos rfl, deliver] at room
  rw [← room] at drains
  have course := whole.course name
  rw [deedsAt_append] at course calm
  have later := (((before.act _ call birth).course name).drains course calm · drains)
  have of_line {e : Session.Ending} (ends : e.OfLine name) (reply : House.replyOfRoom e = r) :
      r = .ok .nothing ∨ r = .error (.failure (.noActiveSession name)) :=
    ends.imp (fun h => (h ▸ reply).symm) fun h => (h ▸ reply).symm
  obtain ⟨e, returned, reply⟩ := (d.house.returned_act ha).mp returned
  cases es with
  | nil =>
    obtain ⟨rfl, -⟩ := List.cons.inj (last.symm.trans done)
    cases ha
    exact of_line (now id e returned) reply
  | cons x es =>
    obtain ⟨rfl, -⟩ := List.cons.inj (last.symm.trans done)
    have quiet : Session.calls (deedsAt name (d :: es)) = [] := by
      refine List.eq_nil_iff_forall_not_mem.mpr fun p hp => ?_
      have begins := mem_calls_deedsAt.mp hp
      rw [none] at begins
      cases begins
    exact of_line ((later quiet).2 _ (mem_deedsAt.mpr ⟨d, List.mem_cons_self, b, ha, rfl⟩) id e
      returned) reply

/-- A line that finds its process alive is written to it at once, and nothing else is written. -/
theorem written (x : m.Answered (.session name (.send line)) r m')
    (recorded : (m.house.room name).recorded = some pid)
    (runs : ((m.house.room name).child pid).hasEnded = false)
    (input : ((m.house.room name).child pid).traits.hasInput = true) :
    ∃ id, writes m'.house.trace = ⟨id, pid, pieceOf line⟩ :: writes m.house.trace := by
  obtain ⟨id, es, -, -, -, done, none, -⟩ := x.of_session
  let b : Deed := ⟨m.house, .begin id (.session name (.send line))⟩
  have hands : b.Hands name id line pid := m.run.hands (e := b) (m.callers_eq name) rfl recorded
  have news : writes b.news = [⟨id, pid, pieceOf line⟩] := by
    unfold Deed.Hands at hands
    rwa [if_pos ⟨runs, input⟩] at hands
  have run := m'.run
  rw [done] at run
  have nothing := run.unwritten fun i n l begins => ?_
  · refine ⟨id, ?_⟩
    rw [run.writes_eq, m.run.writes_eq, List.flatMap_append, nothing, List.nil_append,
      List.flatMap_cons, news]
    rfl
  · rw [begun_append, none, begun_cons] at begins
    rcases List.mem_cons.mp begins with same | begins
    · cases same
      exact .inr ⟨_, List.mem_flatMap.mpr ⟨b, List.mem_cons_self, news ▸ List.mem_cons_self⟩, rfl⟩
    · obtain ⟨reply, back⟩ := m.returned _ begins
      exact .inl ⟨reply, back.mono (List.subset_cons_self _ _)⟩

end Answered

end Instant

end ToolHost

import Mathlib
import ToolHost.Proofs.EventLoop
import ToolHost.Proofs.LineDelivery
import ToolHost.Proofs.OneProcess
import ToolHost.Proofs.Session.Solo
import ToolHost.Proofs.Shutdown

/-!
# Call by call

A routine makes a call only when the one before has come to its end. In the event loop nobody else
makes calls, so at every moment all calls of sessions have come to their end but the one that the
routine waits for.
-/
namespace ToolHost

open Session (Course Room Turn)

/-- Every call of a session has come to its end. -/
def AllReturned (ds : List Deed) : Prop :=
  ∀ q ∈ begun ds, ∃ reply, Returned ds q.2.1 q.1 reply

/-- A call of a session begins only when all those before it have come to their end. -/
def InTurn (ds : List Deed) : Prop :=
  ∀ later d earlier, ds = later ++ d :: earlier → d.action.call?.isSome → AllReturned earlier

theorem Returned.mono {ds es : List Deed} {name : SessionName} {id : CallId}
    {reply : Except Trouble Reply} (h : Returned ds name id reply) (sub : ds ⊆ es) :
    Returned es name id reply := by
  obtain ⟨d, hd, back⟩ := h
  exact ⟨d, sub hd, back⟩

theorem begun_append (xs ys : List Deed) : begun (xs ++ ys) = begun xs ++ begun ys :=
  List.filterMap_append

theorem begun_cons (d : Deed) (ds : List Deed) : begun (d :: ds) = d.action.call?.toList ++ begun ds := by
  unfold begun
  cases h : d.action.call? <;> simp [h]

namespace AllReturned

variable {ds : List Deed}

theorem ended (h : AllReturned ds) (name : SessionName) :
    ∀ p ∈ Session.calls (deedsAt name ds), Session.Ended p.1 (deedsAt name ds) :=
  fun p hp => Returned.ended (h (p.1, name, p.2) (mem_calls_deedsAt.mp hp))

theorem callers (h : AllReturned ds) {k : House} (run : Run ds k) (name : SessionName) :
    (k.room name).callers = [] :=
  (run.course name).callers_of_ended (h.ended name)

end AllReturned

namespace InTurn

variable {d : Deed} {ds earlier : List Deed}

theorem nil : InTurn [] := by
  intro later d earlier split
  cases later <;> cases split

theorem cons (h : InTurn ds) (begins : d.action.call?.isSome → AllReturned ds) :
    InTurn (d :: ds) := by
  intro later e earlier split call
  cases later with
  | nil =>
    obtain ⟨rfl, rfl⟩ := List.cons.inj split
    exact begins call
  | cons x later => exact h later e earlier (List.cons.inj split).2 call

theorem back {later : List Deed} (h : InTurn (later ++ earlier)) : InTurn earlier := by
  intro xs e ys split call
  refine h (later ++ xs) e ys ?_ call
  rw [split, List.append_assoc]

/-- When a call has come to its end, so have all others. -/
theorem allReturned (h : InTurn (d :: earlier)) {k : House} (run : Run (d :: earlier) k)
    {name : SessionName} {b : Session.Action} (ha : d.action.session? = some (name, b))
    {id : CallId} {reply : Except Trouble Reply}
    (returned : (d.house.act d.action).returned = some (id, reply)) : AllReturned (d :: earlier) := by
  obtain ⟨e, he, -⟩ := (d.house.returned_act ha).mp returned
  have deeds : deedsAt name (d :: earlier) =
      [] ++ ⟨d.house.room name, d.house.setting, b⟩ :: deedsAt name earlier :=
    deedsAt_split ha [] earlier
  have course := run.course name
  rw [deeds] at course
  have fresh : ¬ Session.Ended id (deedsAt name earlier) := course.not_ended_before he
  obtain ⟨-, q, hq⟩ := course.gone List.mem_cons_self he
  rw [← deeds] at hq
  have began : (id, name, q) ∈ begun (d :: earlier) := mem_calls_deedsAt.mp hq
  obtain ⟨x, hx, call⟩ := List.mem_filterMap.mp began
  obtain ⟨xs, ys, split⟩ := List.append_of_mem hx
  intro p hp
  rw [split, begun_append, begun_cons, call] at hp
  rcases List.mem_append.mp hp with hp | hp
  · -- Where another call began in between, this one had ended before.
    exfalso
    obtain ⟨y, hy, begins⟩ := List.mem_filterMap.mp hp
    obtain ⟨us, vs, rfl⟩ := List.append_of_mem hy
    have again : d :: earlier = us ++ y :: (vs ++ x :: ys) := by simp [split]
    have known : (id, name, q) ∈ begun (vs ++ x :: ys) :=
      List.mem_filterMap.mpr ⟨x, by simp, call⟩
    obtain ⟨reply, back⟩ := h us y _ again (by simp [begins]) _ known
    have sub : vs ++ x :: ys ⊆ earlier := by
      cases us with
      | nil => exact (List.cons.inj again).2 ▸ List.Subset.refl _
      | cons u us => exact (List.cons.inj again).2 ▸ by simp
    exact fresh (Returned.ended ⟨reply, back.mono sub⟩)
  · rcases List.mem_cons.mp hp with rfl | hp
    · exact ⟨reply, d, List.mem_cons_self, b, ha, returned⟩
    · obtain ⟨reply, back⟩ := h xs x ys split (by simp [call]) p hp
      exact ⟨reply, back.mono (by rw [split]; simp)⟩

end InTurn

/-- A call that a room answers was made in that room. -/
theorem Run.returned_of_answered {d : Deed} {ds : List Deed} {h : House} (run : Run (d :: ds) h)
    {q : CallId × SessionName × Session.Request} (hq : q ∈ begun (d :: ds))
    (answers : d.action.session?.isSome) {reply : Except Trouble Reply}
    (returned : (d.house.act d.action).returned = some (q.1, reply)) :
    Returned (d :: ds) q.2.1 q.1 reply := by
  obtain ⟨⟨n, b⟩, ha⟩ := Option.isSome_iff_exists.mp answers
  have back : Returned (d :: ds) n q.1 reply := ⟨d, List.mem_cons_self, b, ha, returned⟩
  obtain ⟨e, f, hf, ended, -⟩ := back.ending
  obtain ⟨-, p, hp⟩ := (run.course n).gone hf ended
  have same : q.2 = (n, p) := run.begun_unique hq (mem_calls_deedsAt.mp hp)
  rw [same]
  exact back

/-! ## Lines between other calls -/

/-- A call of a name comes to its end with a deed. -/
def Deed.Ends (d : Deed) (earlier : List Deed) (name : SessionName) (request : Session.Request)
    (reply : Except Trouble Reply) : Prop :=
  ∃ id b, d.action.session? = some (name, b) ∧ (id, name, request) ∈ begun (d :: earlier) ∧
    (d.house.act d.action).returned = some (id, reply)

/-- Whether a call that gives a session comes to its end with a deed. -/
def Deed.endsWith (d : Deed) (earlier : List Deed) (name : SessionName)
    (request : Session.Request) (v : Session.View) : Bool :=
  match d.action.session?, (d.house.act d.action).returned with
  | some (n, _), some (id, .ok (.session u)) =>
    n = name && u = v && decide ((id, name, request) ∈ begun (d :: earlier))
  | _, _ => false

theorem Deed.ends_of_endsWith {d : Deed} {earlier : List Deed} {name : SessionName}
    {request : Session.Request} {v : Session.View} (ends : d.endsWith earlier name request v) :
    d.Ends earlier name request (.ok (.session v)) := by
  unfold endsWith at ends
  split at ends
  · next n b id u ha returned =>
    simp only [Bool.and_eq_true, decide_eq_true_eq] at ends
    obtain ⟨⟨rfl, rfl⟩, began⟩ := ends
    exact ⟨id, b, ha, began, returned⟩
  · cases ends

/-- A line is refused as soon as it is sent. -/
def Deed.Refuses (e : Deed) (name : SessionName) (id : CallId) : Prop :=
  writes e.news = [] ∧
    (e.house.act e.action).returned = some (id, .error (.failure (.noActiveSession name)))

/-- A line is written as soon as it is sent to a process that runs and takes input, and refused
otherwise. -/
def Deed.Hands (e : Deed) (name : SessionName) (id : CallId) (line : String) (pid : Pid) : Prop :=
  if ((e.house.room name).child pid).hasEnded = false ∧
      ((e.house.room name).child pid).traits.hasInput = true then
    writes e.news = [⟨id, pid, pieceOf line⟩]
  else e.Refuses name id

section Lines

variable {d e : Deed} {earlier mid later before : List Deed} {h : House} {name : SessionName}
  {id : CallId} {line : String} {pid : Pid} {request : Session.Request}

/-- Where nobody waits a line is delivered. -/
theorem Run.act_send (run : Run before e.house) (none : (e.house.room name).callers = [])
    (sends : e.action.call? = some (id, name, .send line)) :
    e.action.session? = some (name, .begin id (.send line)) ∧
      (e.house.room name).act e.house.setting (.begin id (.send line)) =
        Turn.deliver { room := e.house.room name } id line :=
  ⟨Action.session?_of_call? sends,
    Room.begin_send_of_free ((run.course name).free_of_callers none) _ _ _⟩

/-- Where nobody waits and there is nothing to write to, a line is refused. -/
theorem Run.refuses (run : Run before e.house) (none : (e.house.room name).callers = [])
    (sends : e.action.call? = some (id, name, .send line))
    (dead : ∀ pid, ¬ (e.house.room name).Targets pid) : e.Refuses name id := by
  obtain ⟨ha, act⟩ := run.act_send none sends
  rw [Turn.deliver_of_idle dead] at act
  refine ⟨?_, (e.house.returned_act ha).mpr
    ⟨.failed (.failure (.noActiveSession name)), ?_, rfl⟩⟩
  · rw [Deed.news_eq ha, act]
    rfl
  · have same : (e.house.room name).name = name := (run.course name).name_eq
    rw [act]
    simp [Turn.finish, same]

/-- Where nobody waits a line goes to the process that is recorded. -/
theorem Run.hands (run : Run before e.house) (none : (e.house.room name).callers = [])
    (sends : e.action.call? = some (id, name, .send line))
    (recorded : (e.house.room name).recorded = some pid) : e.Hands name id line pid := by
  have targets := (run.course name).targets_iff recorded
  unfold Deed.Hands
  split
  · next goes =>
    have goes := targets.mpr goes
    obtain ⟨ha, act⟩ := run.act_send none sends
    rw [Deed.news_eq ha, act]
    exact Turn.writes_deliver goes id line
  · next dead =>
    refine run.refuses none sends fun other goes => dead (targets.mp ?_)
    have same := goes.recorded.symm.trans recorded
    cases same
    exact goes

namespace InTurn

/-- When a call begins nobody waits. -/
theorem callers (inTurn : InTurn (e :: before)) (run : Run before e.house)
    (begins : e.action.call? = some (id, name, request)) : (e.house.room name).callers = [] := by
  have all : AllReturned before := inTurn [] e before rfl (by simp [begins])
  exact all.callers run name

/-- After a start or a restart has given a session, as long as only lines begin, they go to the
process of that session. -/
theorem hands (inTurn : InTurn (e :: (mid ++ d :: earlier)))
    (run : Run (e :: (mid ++ d :: earlier)) h) {v : Session.View}
    (ends : d.Ends earlier name request (.ok (.session v))) (launches : request.launches)
    (lines : ∀ i q, (i, name, q) ∈ begun mid → q.isLine)
    (sends : e.action.call? = some (id, name, .send line)) : e.Hands name id line v.pid := by
  obtain ⟨i, b, ha, began, returned⟩ := ends
  have whole : Run ([] ++ e :: (mid ++ d :: earlier)) h := run
  obtain ⟨past, -, -⟩ := whole.back
  obtain ⟨before, call, birth⟩ := past.back
  have after : Run (d :: earlier) (d.house.act d.action).house := before.act d.action call birth
  have recorded : ((d.house.act d.action).house.room name).recorded = some v.pid := by
    obtain ⟨u, hu, gives⟩ := after.gives List.mem_cons_self ha returned began launches
    cases hu
    exact gives.recorded
  have turns : InTurn ((e :: mid) ++ (d :: earlier)) := inTurn
  have all : AllReturned (d :: earlier) := turns.back.allReturned after ha returned
  have course := past.course name
  rw [deedsAt_append] at course
  refine past.hands (inTurn.callers past sends) sends ?_
  refine ((after.course name).recorded_eq course (all.callers after name) ?_).trans recorded
  exact fun p hp => lines p.1 p.2 (mem_calls_deedsAt.mp hp)

/-- After a stop has come to its end, which is no failure, the name is closed as long as no start
and no restart of it begins. -/
theorem closed (inTurn : InTurn (d :: earlier)) (run : Run (later ++ d :: earlier) h)
    (calm : Calm (d :: earlier)) {reply : Except Trouble Reply}
    (ends : d.Ends earlier name .stop reply)
    (none : ∀ i q, (i, name, q) ∈ begun later → q.launches = false) :
    reply = .ok .nothing ∧ h.Closed name := by
  obtain ⟨i, b, ha, began, returned⟩ := ends
  obtain ⟨before, call, birth⟩ := run.back
  have after : Run (d :: earlier) (d.house.act d.action).house := before.act d.action call birth
  obtain ⟨e, he, rfl⟩ := (d.house.returned_act ha).mp returned
  have c := after.course name
  have calm := calm.room name
  have mem : ⟨d.house.room name, d.house.setting, b⟩ ∈ deedsAt name (d :: earlier) :=
    mem_deedsAt.mpr ⟨d, List.mem_cons_self, b, ha, rfl⟩
  obtain ⟨rfl, vacant⟩ := c.emptied calm mem he (mem_calls_deedsAt.mpr began)
  refine ⟨rfl, ?_⟩
  have recorded : ((d.house.act d.action).house.room name).recorded = .none := by
    rw [before.room_act call birth ha, if_pos rfl]
    exact vacant.1
  have all := (inTurn.allReturned after ha returned).ended name
  have closed := c.closed_of_ended calm recorded fun id q hq _ => all (id, q) hq
  have course := run.course name
  rw [deedsAt_append] at course
  exact c.stays_closed course (fun p hp => none p.1 p.2 (mem_calls_deedsAt.mp hp)) closed

end InTurn

/-- A name of which no start and no restart has begun is closed. -/
theorem Run.closed_of_harmless (run : Run before h)
    (none : ∀ i q, (i, name, q) ∈ begun before → q.launches = false) : h.Closed name := by
  have course := run.course name
  rw [← List.append_nil (deedsAt name before)] at course
  refine Course.start.stays_closed course
    (fun p hp => none p.1 p.2 (mem_calls_deedsAt.mp hp)) ⟨⟨rfl, ?_⟩, rfl, ?_, ?_⟩
  · simp [Room.Works, Room.Runs, Room.Relays, Room.child?]
  · rintro _ ⟨⟩
  · rintro _ ⟨⟩

end Lines

/-! ## In the event loop -/

/-- An action that brings a process of a session into being brings forth that process. -/
theorem Action.newborn?_of_birth? {a : Action} {b : Session.Birth} (h : a.birth? = some b) :
    a.newborn? = some b.pid := by
  cases a with
  | room name c =>
    cases c with
    | launched id outcome =>
      cases outcome with
      | error fault => cases h
      | ok born =>
        cases h
        rfl
    | _ => cases h
  | begin id c => cases c <;> cases h
  | _ => cases h

theorem Action.begun?_of_call? {a : Action} {q : CallId × SessionName × Session.Request}
    (h : a.call? = some q) : a.begun? = some q.1 := by
  cases a with
  | begin id c =>
    cases c <;> cases h
    rfl
  | room name b =>
    cases b <;> cases h
    rfl
  | _ => cases h

theorem Job.Does.call?_eq_none {h : House} {j : Job} {a : Action} (does : j.Does h a) :
    a.call? = none := by
  cases does <;> rfl

theorem Happens.call?_eq_none {h : House} {a : Action} (happens : Happens h a) :
    a.call? = none := by
  cases happens <;> rfl

theorem Happens.newborn?_eq_none {h : House} {a : Action} (happens : Happens h a) :
    a.newborn? = none := by
  cases happens <;> rfl

namespace World

variable {α : Type} {allowed : Action → Prop} {w w' : World α}

/-- What has been done makes a run in which nobody gives up and calls take turns, and all calls have
come to their end but the one that the routine waits for. -/
structure Steady (w : World α) : Prop where
  run : Run w.done w.house
  calm : Calm w.done
  inTurn : InTurn w.done
  attended : ∀ q ∈ begun w.done, (∃ reply, Returned w.done q.2.1 q.1 reply) ∨
    ∃ next, w.standing = .waiting q.1 (.session q.2.1 q.2.2) next

namespace Steady

/-- Where the routine does not wait, all calls have come to their end. -/
theorem allReturned (h : Steady w) {x : Routine α} (going : w.standing = .going x) :
    AllReturned w.done := by
  intro q hq
  refine (h.attended q hq).resolve_right ?_
  rintro ⟨next, waits⟩
  cases going.symm.trans waits

/-- A call is attended to if it was before the action, or if the routine now waits for it. -/
theorem attended_perform {a : Action} (run : Run (⟨w.house, a⟩ :: w.done) (w.house.act a).house)
    (before : ∀ q ∈ begun (⟨w.house, a⟩ :: w.done), (∃ reply, Returned w.done q.2.1 q.1 reply) ∨
      ∃ next, w.standing = .waiting q.1 (.session q.2.1 q.2.2) next) :
    ∀ q ∈ begun (w.perform a).done, (∃ reply, Returned (w.perform a).done q.2.1 q.1 reply) ∨
      ∃ next, (w.perform a).standing = .waiting q.1 (.session q.2.1 q.2.2) next := by
  intro q hq
  rcases before q hq with ⟨reply, back⟩ | ⟨next, waits⟩
  · exact .inl ⟨reply, back.mono (List.subset_cons_self _ _)⟩
  · cases hr : (w.house.act a).returned with
    | none => exact .inr ⟨next, by simp [perform, waits, hr, Standing.receive]⟩
    | some x =>
      obtain ⟨id, reply⟩ := x
      by_cases own : id = q.1 ∧ a.Answers (.session q.2.1 q.2.2)
      · obtain ⟨rfl, answers⟩ := own
        exact .inl ⟨reply, run.returned_of_answered hq answers hr⟩
      · exact .inr ⟨next, by simp [perform, waits, hr, Standing.receive, own]⟩

/-- What others do is no call and tells nobody to give up. -/
theorem perform (h : Steady w) {a : Action} (quiet : a.isCancel = false) (none : a.call? = none)
    (birth : ∀ b, a.birth? = some b → ∀ name, b.pid ∉ (w.house.room name).pids) :
    Steady (w.perform a) := by
  have run : Run (⟨w.house, a⟩ :: w.done) (w.house.act a).house :=
    h.run.act a (by simp [none]) birth
  refine ⟨run, ?_, h.inTurn.cons (by simp [none]), attended_perform run fun q hq => ?_⟩
  · intro d hd
    rcases List.mem_cons.mp hd with rfl | hd
    · exact quiet
    · exact h.calm d hd
  · rw [begun_cons, none] at hq
    exact h.attended q hq

/-- The routine makes a call. -/
theorem call (h : Steady w) {x : Routine α} (going : w.standing = .going x) {id : CallId}
    (fresh : id ∉ w.done.filterMap (·.action.begun?)) (c : Call)
    (next : Except Trouble Reply → Routine α) :
    Steady ({ w with standing := .waiting id c next }.perform (.begin id c)) := by
  have all := h.allReturned going
  have own {q} (hq : (Action.begin id c).call? = some q) : q.1 = id ∧ c = .session q.2.1 q.2.2 := by
    cases c <;> cases hq
    exact ⟨rfl, rfl⟩
  have run : Run (⟨w.house, .begin id c⟩ :: w.done) (w.house.act (.begin id c)).house := by
    refine h.run.act _ (fun q hq known => fresh ?_) fun b hb => ?_
    · rw [(own hq).1] at known
      obtain ⟨p, hp, rfl⟩ := List.mem_map.mp known
      obtain ⟨d, hd, began⟩ := List.mem_filterMap.mp hp
      exact List.mem_filterMap.mpr ⟨d, hd, Action.begun?_of_call? began⟩
    · rw [Carried.birth_begin] at hb
      cases hb
  refine ⟨run, ?_, h.inTurn.cons fun _ => all,
    attended_perform (w := { w with standing := .waiting id c next }) run fun q hq => ?_⟩
  · intro d hd
    rcases List.mem_cons.mp hd with rfl | hd
    · cases c <;> rfl
    · exact h.calm d hd
  · rw [begun_cons] at hq
    rcases List.mem_append.mp hq with hq | hq
    · obtain ⟨rfl, rfl⟩ := own (Option.mem_toList.mp hq)
      exact .inr ⟨next, rfl⟩
    · exact .inl (all q hq)

end Steady

theorem Steady.step (h : Steady w) (step : Step allowed w w') : Steady w' := by
  cases step with
  | look going => exact { h with attended := fun q hq => .inl (h.allReturned going q hq) }
  | alter going aside =>
    exact ⟨h.run.aside aside, h.calm, h.inTurn, fun q hq => .inl (h.allReturned going q hq)⟩
  | @clear f next going name clears =>
    have rest : Steady { w with standing := .going next } :=
      { h with attended := fun q hq => .inl (h.allReturned going q hq) }
    exact rest.perform rfl rfl (fun _ e => nomatch e)
  | rest going => exact { h with attended := fun q hq => .inl (h.allReturned going q hq) }
  | call going fresh => exact h.call going fresh _ _
  | @job j a yields ready does fresh may =>
    have left : Steady { w with jobs := w.jobs.erase j } := { h with }
    refine left.perform (isCancel_of_does does) does.call?_eq_none fun b hb name mem => ?_
    exact fresh b.pid (Action.newborn?_of_birth? hb) (.inl ⟨name, mem⟩)
  | feed yields ready ofChild => exact { h with }
  | event yields happens may =>
    refine h.perform (isCancel_of_happens happens) happens.call?_eq_none fun b hb => ?_
    have newborn := Action.newborn?_of_birth? hb
    rw [happens.newborn?_eq_none] at newborn
    cases newborn

/-- In a house in which nobody has asked for a session yet, whatever the loop comes to is steady. -/
theorem Steady.of_reaches {x : Routine α} {h : House} (rooms : h.rooms = [])
    (roster : h.roster = []) (trace : h.trace = []) (reach : Reaches allowed (.opening x h) w) :
    Steady w := by
  induction reach with
  | refl => exact ⟨.start rooms roster trace, (fun _ h => nomatch h), .nil, (fun _ h => nomatch h)⟩
  | tail _ step ih => exact ih.step step

end World

end ToolHost

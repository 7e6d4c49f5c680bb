import Mathlib
import ToolHost.Proofs.Conducting
import ToolHost.Proofs.Session.Closing

/-!
# Shutting down

A shutdown looks once which sessions are recorded and stops those one after another. Each stop comes
inside after all calls that began before, so when it returns, whatever those have started is gone.
A session that is not recorded when the shutdown begins, because it is just being started, replaced
or stopped, is missed: if it is being started, its process runs on.
-/
namespace ToolHost

open Session (Harmless Concludes Outlasts Ended)

/-- Nothing is recorded and nothing runs under the name, and no call is there that creates a
process. -/
def House.Closed (h : House) (name : SessionName) : Prop :=
  Session.Closed name .idle (h.room name)

/-- No start and no restart begins. -/
def NoLaunch (ds : List Deed) : Prop := ∀ e ∈ begun ds, e.2.2.launches = false

instance (ds : List Deed) : Decidable (NoLaunch ds) := inferInstanceAs (Decidable (∀ e ∈ _, _))

theorem NoLaunch.tail {d : Deed} {ds : List Deed} (h : NoLaunch (d :: ds)) : NoLaunch ds :=
  fun e he => h e (((List.sublist_cons_self d ds).filterMap _).subset he)

theorem NoLaunch.head {d : Deed} {ds : List Deed} (h : NoLaunch (d :: ds)) {name : SessionName}
    {b : Session.Action} (ha : d.action.session? = some (name, b)) :
    ∀ q, b.call? = some q → Harmless q := by
  rintro ⟨id, q⟩ hq
  refine h (id, name, q) (List.mem_filterMap.mpr ⟨d, List.mem_cons_self, ?_⟩)
  simp [Action.call?, ha, hq]

/-! ## Stopping one session after another -/

namespace Run

variable {ds : List Deed} {h : House}

/-- An action bears on the room of a name at most. -/
theorem room_act_preserves {P : Session.Room → Prop} (run : Run ds h) {a : Action}
    (call : ∀ q, a.call? = some q → q.1 ∉ (begun ds).map (·.1))
    (birth : ∀ b, a.birth? = some b → ∀ name, b.pid ∉ (h.room name).pids) {name : SessionName}
    (step : ∀ b, a.session? = some (name, b) → P ((h.room name).act h.setting b).room)
    (old : P (h.room name)) : P ((h.act a).house.room name) := by
  cases bearing name h a with
  | here b ha =>
    rw [run.room_act call birth ha, if_pos rfl]
    exact step b ha
  | there n b ha ne =>
    rw [run.room_act call birth ha, if_neg ne.symm]
    exact old
  | aside side =>
    rw [side.room]
    exact old

theorem closed_act (run : Run ds h) {a : Action} {others : List Deed}
    (call : ∀ q, a.call? = some q → q.1 ∉ (begun ds).map (·.1))
    (birth : ∀ b, a.birth? = some b → ∀ name, b.pid ∉ (h.room name).pids)
    (none : NoLaunch (⟨h, a⟩ :: others)) {name : SessionName} (closed : h.Closed name) :
    (h.act a).house.Closed name :=
  run.room_act_preserves call birth
    (fun _ ha => closed.act (run.course name).sound h.setting_sane
      ((run.course name).fits (call_fresh call ha) (birth_fresh birth ha)) (none.head ha))
    closed

/-- After an action in its room, a call that concludes waits, or no call is left that creates a
process. -/
theorem outlasts_here (run : Run ds h) {a : Action} (calm : Calm (⟨h, a⟩ :: ds))
    (call : ∀ q, a.call? = some q → q.1 ∉ (begun ds).map (·.1))
    (birth : ∀ b, a.birth? = some b → ∀ name, b.pid ∉ (h.room name).pids) {id : CallId}
    {name : SessionName} {b : Session.Action} (ha : a.session? = some (name, b))
    (concludes : Concludes id (deedsAt name (⟨h, a⟩ :: ds)))
    (start : Outlasts name id b.focus (h.room name)) :
    Outlasts name id .idle ((h.room name).act h.setting b).room := by
  have quiet : b.isCancel = false := by
    have now := calm _ List.mem_cons_self
    rwa [Action.isCancel, ha] at now
  rw [deedsAt_cons_self ha] at concludes
  exact (run.course name).outlasts_act ((run.course name).tidy (calm.tail.room name)) h.setting_sane
    (call_fresh call ha) (birth_fresh birth ha) quiet concludes start

end Run

/-! ## How far a shutdown has come -/

theorem Conduct.run_stopAll_nil : (stopAll []).run = .done (.ok ()) := rfl

theorem Conduct.run_stopAll_cons (name : SessionName) (names : List SessionName) :
    (stopAll (name :: names)).run = .call (.session name .stop) fun
      | .ok _ => (stopAll names).run
      | .error e => .done (.error e) := by
  refine congrArg (Routine.call _) (funext fun r => ?_)
  cases r <;> rfl

/-- How far a shutdown has come. The names on the roster of the beginning are closed once their turn
is over. -/
inductive Stopping (first : House) (ds : List Deed) (h : House) :
    Standing (Except Trouble Unit) → Prop
  | looking {x : Routine (Except Trouble Unit)} (eq : x = Conduct.shutDown.run)
      (same : h = first) : Stopping first ds h (.going x)
  | going (names : List SessionName) {x : Routine (Except Trouble Unit)}
      (eq : x = (Conduct.stopAll names).run)
      (closed : ∀ name ∈ first.roster, name ∈ names ∨ h.Closed name) :
      Stopping first ds h (.going x)
  | waiting (id : CallId) (name : SessionName) (names : List SessionName)
      {next : Except Trouble Reply → Routine (Except Trouble Unit)}
      (goesOn : next (.ok .nothing) = (Conduct.stopAll names).run)
      (concludes : Concludes id (deedsAt name ds)) (outlasts : Outlasts name id .idle (h.room name))
      (closed : ∀ n ∈ first.roster, n ∈ name :: names ∨ h.Closed n) :
      Stopping first ds h (.waiting id (.session name .stop) next)

/-- A shutdown that goes on looks at the roster, is over, or stops the next session. -/
theorem Stopping.cases_going {first h : House} {ds : List Deed} {x : Routine (Except Trouble Unit)}
    (k : Stopping first ds h (.going x)) :
    (x = Conduct.shutDown.run ∧ h = first) ∨
    (x = .done (.ok ()) ∧ ∀ name ∈ first.roster, h.Closed name) ∨
    ∃ name names next, x = .call (.session name .stop) next ∧
      next (.ok .nothing) = (Conduct.stopAll names).run ∧
      ∀ n ∈ first.roster, n ∈ name :: names ∨ h.Closed n := by
  cases k with
  | looking eq same => exact .inl ⟨eq, same⟩
  | going names eq closed =>
    cases names with
    | nil =>
      exact .inr (.inl ⟨eq, fun name hn => (closed name hn).resolve_left List.not_mem_nil⟩)
    | cons name names =>
      exact .inr (.inr ⟨name, names, _, eq.trans (Conduct.run_stopAll_cons name names), rfl, closed⟩)

namespace Carried

variable {earlier later ds : List Deed} {first h : House} {s : Standing (Except Trouble Unit)}

/-- The call that a shutdown waits for has come to its end: the name is closed. -/
theorem closed_of_reply {d : Deed} (run : Run (d :: ds) h) (calm : Calm (d :: ds)) {id : CallId}
    {name : SessionName} {reply : Except Trouble Reply} (answers : d.action.session?.isSome)
    (returned : (d.house.act d.action).returned = some (id, reply))
    (concludes : Concludes id (deedsAt name (d :: ds)))
    (outlasts : Outlasts name id .idle (h.room name)) :
    reply = .ok .nothing ∧ h.Closed name := by
  obtain ⟨⟨n, b⟩, ha⟩ := Option.isSome_iff_exists.mp answers
  obtain ⟨e, he, rfl⟩ := (d.house.returned_act ha).mp returned
  -- The room that answers is the one of the name.
  have here := run.course n
  rw [deedsAt_cons_self ha] at here
  obtain ⟨_, q, hq⟩ := here.gone List.mem_cons_self he
  rw [← deedsAt_cons_self ha] at hq
  cases run.begun_unique (mem_calls_deedsAt.mp hq) (mem_calls_deedsAt.mp concludes.1)
  have calm := calm.room name
  have stop := concludes.1
  rw [deedsAt_cons_self ha] at calm stop
  obtain ⟨rfl, closed⟩ := here.closed_of_returned calm he stop outlasts
  exact ⟨rfl, closed⟩

theorem stopping (k : Carried Conduct.shutDown.run earlier first later h s)
    (calm : Calm (later ++ earlier)) (none : NoLaunch later) :
    Stopping first (later ++ earlier) h s := by
  induction k with
  | start run => exact .looking rfl rfl
  | look k ih =>
    obtain ⟨eq, same⟩ | ⟨eq, _⟩ | ⟨_, _, _, eq, _⟩ := (ih calm none).cases_going <;> cases eq
    subst same
    exact .going _ rfl fun _ => .inl
  | alter k aside ih =>
    obtain ⟨eq, _⟩ | ⟨eq, _⟩ | ⟨_, _, _, eq, _⟩ := (ih calm none).cases_going <;> cases eq
  | rest k ih =>
    obtain ⟨eq, _⟩ | ⟨eq, _⟩ | ⟨_, _, _, eq, _⟩ := (ih calm none).cases_going <;> cases eq
  | call k id call ih =>
    rename_i later h c next
    obtain ⟨eq, _⟩ | ⟨eq, _⟩ | ⟨name, names, _, eq, goesOn, closed⟩ :=
      (ih calm.tail none.tail).cases_going <;> cases eq
    have birth : ∀ b, (Action.begin id (.session name .stop)).birth? = some b →
        ∀ name, b.pid ∉ (h.room name).pids := fun _ e => nomatch e
    have concludes : Concludes id (deedsAt name
        (⟨h, .begin id (.session name .stop)⟩ :: (later ++ earlier))) := by
      rw [deedsAt_cons_self rfl]
      exact .begin rfl
    refine .waiting id name names goesOn concludes ?_ fun n hn => (closed n hn).imp_right ?_
    · rw [k.run.room_act call birth rfl, if_pos rfl]
      exact k.run.outlasts_here calm call birth rfl concludes (.inl (.inl rfl))
    · exact k.run.closed_act call birth none
  | reply k answers returned ih =>
    cases ih calm none with
    | waiting id name names goesOn concludes outlasts closed =>
      obtain ⟨rfl, done⟩ := closed_of_reply k.run calm answers returned concludes outlasts
      refine .going names goesOn fun n hn => ?_
      rcases closed n hn with hn | hn
      · rcases List.mem_cons.mp hn with rfl | hn
        · exact .inr done
        · exact .inl hn
      · exact .inr hn
  | act k yields a call birth ih =>
    rename_i later h s
    have still {n : SessionName} : h.Closed n → (h.act a).house.Closed n :=
      k.run.closed_act call birth none
    cases ih calm.tail none.tail with
    | looking eq same =>
      subst eq
      cases yields
    | going names eq closed => exact .going names eq fun n hn => (closed n hn).imp_right still
    | waiting id name names goesOn concludes outlasts closed =>
      have next : Concludes id (deedsAt name (⟨h, a⟩ :: (later ++ earlier))) := by
        cases bearing name h a with
        | here b ha deeds =>
          rw [deeds]
          exact concludes.cons (none.head ha)
        | there n b ha ne deeds =>
          rw [deeds]
          exact concludes
        | aside side deeds =>
          rw [deeds]
          exact concludes
      refine .waiting id name names goesOn next ?_ fun n hn => (closed n hn).imp_right still
      exact k.run.room_act_preserves call birth
        (fun b ha => k.run.outlasts_here calm call birth ha next (outlasts.begins (none.head ha)))
        outlasts
  | aside k yields side ih =>
    rename_i later h g s
    have still {n : SessionName} : h.Closed n → g.Closed n := by
      rw [House.Closed, House.Closed, side.room]
      exact id
    cases ih calm none with
    | looking eq same =>
      subst eq
      cases yields
    | going names eq closed => exact .going names eq fun n hn => (closed n hn).imp_right still
    | waiting id name names goesOn concludes outlasts closed =>
      exact .waiting id name names goesOn concludes ((side.room name).symm ▸ outlasts)
        fun n hn => (closed n hn).imp_right still

end Carried

/-! ## What a shutdown leaves -/

/-- A look at the roster does not miss what there is of a name: it is on the roster, or no start and
no restart of it is under way, and the stops that are have returned in the end. -/
def Seen (later earlier : List Deed) (first : House) (name : SessionName) : Prop :=
  name ∈ first.roster ∨
    (∀ id q, (id, name, q) ∈ begun earlier → q.launches → ∃ reply, Returned earlier name id reply) ∧
    ∀ id, (id, name, .stop) ∈ begun earlier → ∃ reply, Returned (later ++ earlier) name id reply

theorem Returned.ended {ds : List Deed} {name : SessionName} {id : CallId}
    (h : ∃ reply, Returned ds name id reply) : Ended id (deedsAt name ds) := by
  obtain ⟨_, returned⟩ := h
  obtain ⟨e, d, hd, he, _⟩ := returned.ending
  exact ⟨d, hd, e, he⟩

theorem NoLaunch.room {ds : List Deed} (h : NoLaunch ds) (name : SessionName) :
    ∀ p ∈ Session.calls (deedsAt name ds), Harmless p :=
  fun p hp => h (p.1, name, p.2) (mem_calls_deedsAt.mp hp)

/-- A name that is not on the roster is closed in the end if nothing of it is missed. -/
theorem Run.closes {earlier later : List Deed} {first h : House} (start : Run earlier first)
    (run : Run (later ++ earlier) h) (calm : Calm (later ++ earlier)) (none : NoLaunch later)
    {name : SessionName} (out : name ∉ first.roster) (seen : Seen later earlier first name) :
    h.Closed name := by
  obtain ⟨launches, stops⟩ := seen.resolve_left out
  have recorded : (first.room name).recorded = .none := by
    simpa using mt (start.mem_roster name).mpr out
  have course := run.course name
  have calm := calm.room name
  rw [deedsAt_append] at course calm
  refine (start.course name).closes course calm (none.room name) recorded ?_ ?_
  · exact fun id q hq creates => (Returned.ended (launches id q (mem_calls_deedsAt.mp hq) creates))
  · intro id hq
    rw [← deedsAt_append]
    exact Returned.ended (stops id (mem_calls_deedsAt.mp hq))

/-- Nothing of a closed name is live, and all its processes have ended. -/
theorem House.Closed.over {h : House} {name : SessionName} (closed : h.Closed name) :
    (h.room name).live? = none ∧
      ∀ pid ∈ (h.room name).pids, ((h.room name).child pid).hasEnded := by
  obtain ⟨recorded, still⟩ := closed.vacant
  refine ⟨by simp [Session.Room.live?, recorded], fun pid mem => ?_⟩
  by_contra going
  refine still pid (.inl (((h.room name).runs_iff pid).mpr ⟨mem, ?_⟩))
  simpa [Session.Child.hasEnded] using going

/-- Where a shutdown has been carried out, nobody gave up, and no start and no restart began after it,
it has not failed, and of every name of which it missed nothing no session is live and every process
has ended. -/
theorem shut_down {earlier later : List Deed} {first h : House} {result : Except Trouble Unit}
    (carried : Carried Conduct.shutDown.run earlier first later h (.going (.done result)))
    (calm : Calm (later ++ earlier)) (none : NoLaunch later) :
    result = .ok () ∧ ∀ name, Seen later earlier first name →
      (h.room name).live? = .none ∧
        ∀ pid ∈ (h.room name).pids, ((h.room name).child pid).hasEnded := by
  obtain ⟨eq, _⟩ | ⟨eq, closed⟩ | ⟨_, _, _, eq, _⟩ := (carried.stopping calm none).cases_going <;>
    cases eq
  refine ⟨rfl, fun name seen => House.Closed.over ?_⟩
  by_cases mem : name ∈ first.roster
  · exact closed name mem
  · exact carried.origin.closes carried.run calm none mem seen

/-- A session is started, and a restart waits for that. -/
def opening : List Action :=
  [.begin 1 (.session (.text "x") (.start ⟨.here, []⟩)),
    .begin 2 (.session (.text "x") (.restart ⟨.here, []⟩)),
    .room (.text "x") (.launched 1 (.ok ⟨7, {}⟩))]

/-- The session is replaced while a stop waits, and the stop sees the new process to its end. -/
def closing : List Action :=
  [.room (.text "x") (.resume 2), .room (.text "x") (.exit 7 0), .room (.text "x") (.relay 7),
    .room (.text "x") (.wake 2), .room (.text "x") (.resume 2),
    .room (.text "x") (.launched 2 (.ok ⟨8, {}⟩)), .room (.text "x") (.resume 3),
    .room (.text "x") (.relay 8)]

theorem shut_down_succession : ∃ later h,
    Carried Conduct.shutDown.run (play [] furnished opening).1 (play [] furnished opening).2 later h
      (.going (.done (.ok ()))) ∧
    (h.room (.text "x")).pids = [7, 8] ∧ (h.room (.text "x")).live? = none ∧
    ∀ pid ∈ (h.room (.text "x")).pids, ((h.room (.text "x")).child pid).hasEnded := by
  let first := (play [] furnished opening).2
  have start : Run (play [] furnished opening).1 first :=
    Run.furnished.play opening (by decide +kernel)
  have looked : Carried Conduct.shutDown.run (play [] furnished opening).1 first [] first
      (.going (Conduct.stopAll first.roster).run) := .look (.start start)
  have roster : first.roster = [.text "x"] := by decide +kernel
  rw [roster, Conduct.run_stopAll_cons] at looked
  have called := looked.call 3 (by decide +kernel)
  have waited := called.play rfl closing (by decide +kernel)
  have stopped := waited.act rfl (.room (.text "x") (.resume 3)) (by decide +kernel) (by nofun)
  have finished := stopped.reply rfl
    ((House.returned_act _ rfl).mpr ⟨.done, by decide +kernel, rfl⟩)
  obtain ⟨_, left⟩ := shut_down finished (by decide +kernel) (by decide +kernel)
  obtain ⟨dead, ended⟩ := left (.text "x") (.inl (by decide +kernel))
  exact ⟨_, _, finished, by decide +kernel, dead, ended⟩

/-- A session is being started. -/
def dawn : List Action := [.begin 1 (.session (.text "x") (.start ⟨.here, []⟩))]

/-- A shutdown that comes while a session is being started has nothing to stop, and the session is
live when both have returned. -/
theorem not_shut_down_dawn : ∃ later h,
    Carried Conduct.shutDown.run (play [] furnished dawn).1 (play [] furnished dawn).2 later h
      (.going (.done (.ok ()))) ∧
    Calm (later ++ (play [] furnished dawn).1) ∧ NoLaunch later ∧
    Returned (later ++ (play [] furnished dawn).1) (.text "x") 1
      (.ok (.session ⟨.text "x", 7, ⟨.here, []⟩, true, none⟩)) ∧
    begun (play [] furnished dawn).1 = [(1, .text "x", .start ⟨.here, []⟩)] ∧
    (h.room (.text "x")).live?.isSome ∧ (h.room (.text "x")).pids = [7] ∧
    ((h.room (.text "x")).child 7).hasEnded = false := by
  let first := (play [] furnished dawn).2
  have start : Run (play [] furnished dawn).1 first :=
    Run.furnished.play dawn (by decide +kernel)
  have looked : Carried Conduct.shutDown.run (play [] furnished dawn).1 first [] first
      (.going (Conduct.stopAll first.roster).run) := .look (.start start)
  have roster : first.roster = [] := by decide +kernel
  rw [roster, Conduct.run_stopAll_nil] at looked
  have launched := looked.play rfl [.room (.text "x") (.launched 1 (.ok ⟨7, {}⟩))]
    (by decide +kernel)
  refine ⟨_, _, launched, by decide +kernel, by decide +kernel, ?_, by decide +kernel,
    by decide +kernel, by decide +kernel, by decide +kernel⟩
  exact ⟨_, List.mem_cons_self, _, rfl,
    (House.returned_act _ rfl).mpr ⟨.session ⟨_, _, _, _, _⟩, by decide +kernel, rfl⟩⟩

end ToolHost

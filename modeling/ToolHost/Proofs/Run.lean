import Mathlib
import ToolHost.House
import ToolHost.Proofs.Session.Queue

/-!
# Runs of the house

Everything that can be done in a house, in any order, from the state in which nobody has asked for
a session yet. Between two actions the rest of the program may change what does not belong to the
sessions: the plan, the files, the location, the commands. Seen from the room of one name a run is
a course of that room, so what was shown of rooms holds in every house that a run leads to.
-/
namespace ToolHost

/-- What an action does in a room, and in whose. -/
def Action.session? : Action → Option (SessionName × Session.Action)
  | .begin id (.session name request) => some (name, .begin id request)
  | .room name a => some (name, a)
  | _ => none

/-- The call of a session that an action begins. -/
def Action.call? (a : Action) : Option (CallId × SessionName × Session.Request) :=
  a.session?.bind fun (name, b) => b.call?.map fun (id, request) => (id, name, request)

/-- The process of a session that an action brings into being. -/
def Action.birth? (a : Action) : Option Session.Birth := a.session?.bind (·.2.birth?)

/-- Something that was done in a house, with what it found there. -/
structure Deed where
  house : House
  action : Action

/-- What was done in the room of a name. -/
def Deed.at? (name : SessionName) (d : Deed) : Option Session.Deed :=
  d.action.session?.bind fun (n, a) =>
    if n = name then some ⟨d.house.room name, d.house.setting, a⟩ else none

/-- All that was done in the room of a name. -/
def deedsAt (name : SessionName) (ds : List Deed) : List Session.Deed := ds.filterMap (·.at? name)

/-- The calls of sessions that have begun, the latest first. -/
def begun (ds : List Deed) : List (CallId × SessionName × Session.Request) :=
  ds.filterMap (·.action.call?)

/-- What the rest of the program may change. -/
structure House.Aside (h k : House) : Prop where
  rooms : k.rooms = h.rooms
  roster : k.roster = h.roster
  trace : ∃ xs, k.trace = xs ++ h.trace ∧ ∀ x ∈ xs, x.isAside

/-- All that was done in a house, the latest first, and the house now. New calls and new processes
are new. -/
inductive Run : List Deed → House → Prop
  | start {h : House} (rooms : h.rooms = []) (roster : h.roster = []) (trace : h.trace = []) :
      Run [] h
  | act {ds : List Deed} {h : House} (run : Run ds h) (a : Action)
      (call : ∀ q, a.call? = some q → q.1 ∉ (begun ds).map (·.1))
      (birth : ∀ b, a.birth? = some b → ∀ name, b.pid ∉ (h.room name).pids) :
      Run (⟨h, a⟩ :: ds) (h.act a).house
  | aside {ds : List Deed} {h k : House} (run : Run ds h) (aside : h.Aside k) : Run ds k

/-- A call that was made in the room of a name has come to its end. -/
def Returned (ds : List Deed) (name : SessionName) (id : CallId) (reply : Except Trouble Reply) :
    Prop :=
  ∃ d ∈ ds, ∃ b, d.action.session? = some (name, b) ∧
    (d.house.act d.action).returned = some (id, reply)

/-- Whether an action tells a call to give up. -/
def Action.isCancel (a : Action) : Bool := a.session?.any (·.2.isCancel)

/-- Nobody was told to give up. -/
def Calm (ds : List Deed) : Prop := ∀ d ∈ ds, d.action.isCancel = false

instance (ds : List Deed) : Decidable (Calm ds) := inferInstanceAs (Decidable (∀ d ∈ ds, _))

theorem Calm.tail {d : Deed} {ds : List Deed} (h : Calm (d :: ds)) : Calm ds :=
  fun e he => h e (List.mem_cons_of_mem _ he)

/-! ## The house -/

namespace House

/-- Whether a command can be launched never hangs on a key. -/
theorem setting_sane (h : House) : h.setting.Sane := by
  have lacking (p : Machine.Path) : h.artifact p ≠ .error (.breakdown .missingKey) := by
    unfold artifact Config.Place.exists?
    cases h.host.files.exists? p with
    | error e => simp
    | ok b => cases b <;> simp
  change h.sessionCommand ≠ _
  unfold sessionCommand
  cases hl : h.location.artifactPath with
  | error e =>
    unfold Location.artifactPath at hl
    intro he
    have he : e = .breakdown .missingKey := by simpa [bind, Except.bind] using he
    subst he
    split at hl <;> cases hl
  | ok p =>
    intro he
    simp only [bind, Except.bind] at he
    cases ha : h.artifact p with
    | error e =>
      rw [ha] at he
      exact lacking p (ha.trans (by simpa using he))
    | ok u =>
      rw [ha] at he
      unfold Plan.argv at he
      cases hr : h.plan.runtime <;> simp [hr, Except.mapError] at he

theorem lookup_filter_ne (rooms : List (SessionName × Session.Room)) {m n : SessionName}
    (ne : m ≠ n) : (rooms.filter (·.1 != n)).lookup m = rooms.lookup m := by
  induction rooms with
  | nil => rfl
  | cons e rooms ih =>
    obtain ⟨k, r⟩ := e
    by_cases hk : k = n
    · subst hk
      have hm : (m == k) = false := by simpa using ne
      simp [List.lookup_cons, hm, ih]
    · simp [hk, List.lookup_cons, ih]

theorem room_setRoom (h : House) (r : Session.Room) (name : SessionName) :
    (h.setRoom r).room name = if name = r.name then r else h.room name := by
  unfold room setRoom
  by_cases hn : name = r.name
  · simp [hn]
  · have hb : (name == r.name) = false := by simpa using hn
    rw [List.lookup_cons, hb]
    simp only [hn, if_false]
    rw [lookup_filter_ne _ hn]

theorem act_session (h : House) {a : Action} {name : SessionName} {b : Session.Action}
    (ha : a.session? = some (name, b)) : h.act a = h.actRoom name b := by
  cases a with
  | begin id call =>
    cases call <;> cases ha
    rfl
  | room n c => cases ha; rfl
  | _ => cases ha

theorem shots_aside (s : OneShot.Shots) (a : OneShot.Action) :
    ∀ x ∈ (s.act a).trace, x.isAside := by
  cases a with
  | begin id argv dir => cases argv <;> simp [OneShot.Shots.act, OneShot.Shots.begin]
  | launched id outcome extra =>
    simp only [OneShot.Shots.act, OneShot.Shots.launched]
    split
    · simp
    · cases outcome <;> simp [Happening.isAside]
  | reap pid =>
    simp only [OneShot.Shots.act, OneShot.Shots.reap]
    split
    · simp
    · split <;> simp [Happening.isAside]
  | exit pid code =>
    simp only [OneShot.Shots.act, OneShot.Shots.exit]
    split
    · simp
    · split <;> simp [Happening.isAside]
  | forget pid =>
    simp only [OneShot.Shots.act, OneShot.Shots.forget]
    split <;> simp
  | await id =>
    simp only [OneShot.Shots.act, OneShot.Shots.await]
    split <;> simp
  | count id => simp [OneShot.Shots.act, OneShot.Shots.count]
  | resume id =>
    simp only [OneShot.Shots.act, OneShot.Shots.resume]
    split
    · simp
    · split <;> simp

theorem receive_aside (t : Machine.FileTree) (o : Install.Order) (outcome : Http.Outcome)
    (r : Install.Refusal) : ∀ x ∈ (Install.receive t o outcome r).trace, x.isAside := by
  unfold Install.receive
  split
  · simp
  · simp
  · simp only
    repeat' split
    all_goals simp [Happening.isAside]

namespace Aside

theorem refl (h : House) : h.Aside h := ⟨rfl, rfl, [], rfl, by simp⟩

theorem say (h : House) {x : Happening} (hx : x.isAside) : h.Aside (h.say x) :=
  ⟨rfl, rfl, [x], rfl, by simpa using hx⟩

theorem room {h k : House} (s : h.Aside k) (name : SessionName) : k.room name = h.room name := by
  rw [House.room, s.rooms]
  rfl

end Aside

/-- An action that is none of a room leaves the sessions alone. -/
theorem act_aside (h : House) {a : Action} (ha : a.session? = none) : h.Aside (h.act a).house := by
  cases a with
  | room name b => cases ha
  | shot b => exact ⟨rfl, rfl, _, rfl, shots_aside _ _⟩
  | begin id call =>
    cases call with
    | session name request => cases ha
    | oneShot artifact dir text => exact ⟨rfl, rfl, _, rfl, shots_aside _ _⟩
    | awaitOneShots => exact ⟨rfl, rfl, _, rfl, shots_aside _ _⟩
    | install target artifactName url =>
      change h.Aside (h.beginInstall id target artifactName url).house
      unfold beginInstall
      simp only
      split
      · exact .refl h
      · split
        · exact .refl h
        · exact ⟨rfl, rfl, [_], rfl, by simp [Happening.isAside]⟩
        · split
          · exact ⟨rfl, rfl, [_], rfl, by simp [Happening.isAside]⟩
          · exact .say h rfl
  | received id asked outcome refusal =>
    change h.Aside (h.receive id asked outcome refusal).house
    unfold receive
    split
    · exact .refl h
    · refine ⟨rfl, rfl, _, rfl, ?_⟩
      intro x hx
      rcases List.mem_append.mp hx with hx | hx
      · exact receive_aside _ _ _ _ x hx
      · obtain ⟨url, _, rfl⟩ := List.mem_map.mp (List.mem_reverse.mp hx)
        rfl

/-- The reply of a house to a call of a session is that of the room. -/
theorem returned_act (h : House) {a : Action} {name : SessionName} {b : Session.Action}
    (ha : a.session? = some (name, b)) {id : CallId} {reply : Except Trouble Reply} :
    (h.act a).returned = some (id, reply) ↔
      ∃ e, ((h.room name).act h.setting b).returned = some (id, e) ∧ replyOfRoom e = reply := by
  rw [h.act_session ha]
  refine Option.map_eq_some_iff.trans ?_
  constructor
  · rintro ⟨⟨i, e⟩, he, hr⟩
    cases hr
    exact ⟨e, he, rfl⟩
  · rintro ⟨e, he, rfl⟩
    exact ⟨(id, e), he, rfl⟩

/-- Where something happens in a room, the rooms of other names stay as they are. -/
theorem room_actRoom (h : House) {n : SessionName} {b : Session.Action}
    (same : ((h.room n).act h.setting b).room.name = n) (name : SessionName) :
    (h.actRoom n b).house.room name =
      if name = n then ((h.room n).act h.setting b).room else h.room name := by
  have hr := h.room_setRoom ((h.room n).act h.setting b).room name
  rw [same] at hr
  exact hr

end House

/-! ## What was done, room by room -/

theorem Deed.at?_eq_some {name : SessionName} {d : Deed} {e : Session.Deed} :
    d.at? name = some e ↔ ∃ b, d.action.session? = some (name, b) ∧
      ⟨d.house.room name, d.house.setting, b⟩ = e := by
  unfold at?
  cases d.action.session? with
  | none => simp
  | some x =>
    obtain ⟨n, a⟩ := x
    by_cases hn : n = name
    · simp [hn]
    · simp [hn]

theorem mem_deedsAt {name : SessionName} {ds : List Deed} {e : Session.Deed} :
    e ∈ deedsAt name ds ↔ ∃ d ∈ ds, ∃ b, d.action.session? = some (name, b) ∧
      ⟨d.house.room name, d.house.setting, b⟩ = e := by
  simp only [deedsAt, List.mem_filterMap, Deed.at?_eq_some]

theorem Deed.call?_at? {name : SessionName} {d : Deed} {id : CallId} {q : Session.Request} :
    (∃ e, d.at? name = some e ∧ e.action.call? = some (id, q)) ↔
      d.action.call? = some (id, name, q) := by
  unfold Deed.at? Action.call?
  cases d.action.session? with
  | none => simp
  | some x =>
    obtain ⟨n, a⟩ := x
    by_cases hn : n = name
    · cases hc : a.call? <;> simp [hn, hc, Prod.ext_iff]
    · cases hc : a.call? <;> simp [hn, hc]

theorem Calm.room {ds : List Deed} (calm : Calm ds) (name : SessionName) :
    Session.Calm (deedsAt name ds) := by
  intro e he
  obtain ⟨d, hd, b, ha, rfl⟩ := mem_deedsAt.mp he
  have hc := calm d hd
  rwa [Action.isCancel, ha] at hc

theorem Action.session?_of_call? {a : Action} {id : CallId} {name : SessionName}
    {q : Session.Request} (h : a.call? = some (id, name, q)) :
    a.session? = some (name, .begin id q) := by
  obtain ⟨⟨n, b⟩, hs, hb⟩ := Option.bind_eq_some_iff.mp h
  cases b with
  | begin i request =>
    cases hb
    exact hs
  | _ => cases hb

theorem mem_calls_deedsAt {name : SessionName} {ds : List Deed} {id : CallId}
    {q : Session.Request} :
    (id, q) ∈ Session.calls (deedsAt name ds) ↔ (id, name, q) ∈ begun ds := by
  unfold Session.calls deedsAt begun
  simp only [List.mem_filterMap]
  constructor
  · rintro ⟨e, ⟨d, hd, he⟩, hq⟩
    exact ⟨d, hd, Deed.call?_at?.mp ⟨e, he, hq⟩⟩
  · rintro ⟨d, hd, hq⟩
    obtain ⟨e, he, hc⟩ := Deed.call?_at?.mpr hq
    exact ⟨e, ⟨d, hd, he⟩, hc⟩

theorem deedsAt_append (name : SessionName) (xs ys : List Deed) :
    deedsAt name (xs ++ ys) = deedsAt name xs ++ deedsAt name ys := List.filterMap_append

theorem deedsAt_cons (name : SessionName) (d : Deed) (ds : List Deed) :
    deedsAt name (d :: ds) = (d.at? name).toList ++ deedsAt name ds := by
  rw [deedsAt, List.filterMap_cons]
  cases d.at? name <;> rfl

theorem deedsAt_cons_self {name : SessionName} {h : House} {a : Action} {b : Session.Action}
    (ha : a.session? = some (name, b)) (ds : List Deed) :
    deedsAt name (⟨h, a⟩ :: ds) = ⟨h.room name, h.setting, b⟩ :: deedsAt name ds := by
  simp [deedsAt_cons, Deed.at?, ha]

theorem deedsAt_split {name : SessionName} {d : Deed} {b : Session.Action}
    (ha : d.action.session? = some (name, b)) (later earlier : List Deed) :
    deedsAt name (later ++ d :: earlier) =
      deedsAt name later ++ ⟨d.house.room name, d.house.setting, b⟩ :: deedsAt name earlier := by
  rw [deedsAt_append, deedsAt_cons_self ha]

/-- A call that has come to its end did so in its room. -/
theorem Returned.ending {ds : List Deed} {name : SessionName} {id : CallId}
    {reply : Except Trouble Reply} (h : Returned ds name id reply) :
    ∃ e, ∃ d ∈ deedsAt name ds, d.turn.returned = some (id, e) ∧ House.replyOfRoom e = reply := by
  obtain ⟨d, hd, b, ha, he⟩ := h
  obtain ⟨e, he, hr⟩ := (d.house.returned_act ha).mp he
  exact ⟨e, _, mem_deedsAt.mpr ⟨d, hd, b, ha, rfl⟩, he, hr⟩

/-- Whether an action is about the room of a name, about another one, or about none. -/
inductive Bearing (name : SessionName) (h : House) (a : Action) : Prop
  | here (b : Session.Action) (ha : a.session? = some (name, b))
      (deeds : ∀ ds, deedsAt name (⟨h, a⟩ :: ds) = ⟨h.room name, h.setting, b⟩ :: deedsAt name ds)
  | there (n : SessionName) (b : Session.Action) (ha : a.session? = some (n, b)) (ne : n ≠ name)
      (deeds : ∀ ds, deedsAt name (⟨h, a⟩ :: ds) = deedsAt name ds)
  | aside (side : h.Aside (h.act a).house)
      (deeds : ∀ ds, deedsAt name (⟨h, a⟩ :: ds) = deedsAt name ds)

theorem bearing (name : SessionName) (h : House) (a : Action) : Bearing name h a := by
  cases ha : a.session? with
  | none => exact .aside (h.act_aside ha) fun ds => by simp [deedsAt_cons, Deed.at?, ha]
  | some x =>
    obtain ⟨n, b⟩ := x
    by_cases hn : n = name
    · subst hn
      exact .here b ha (deedsAt_cons_self ha)
    · exact .there n b ha hn fun ds => by simp [deedsAt_cons, Deed.at?, ha, hn]

namespace Run

variable {ds : List Deed} {h : House}

/-- What an action asks of the world, seen from the room it is about. -/
theorem call_fresh {a : Action} (call : ∀ q, a.call? = some q → q.1 ∉ (begun ds).map (·.1))
    {name : SessionName} {b : Session.Action} (ha : a.session? = some (name, b)) :
    ∀ q, b.call? = some q → q.1 ∉ (Session.calls (deedsAt name ds)).map (·.1) := by
  intro q hq hm
  obtain ⟨x, hx, he⟩ := List.mem_map.mp hm
  have hc : a.call? = some (q.1, name, q.2) := by simp [Action.call?, ha, hq]
  exact call _ hc (List.mem_map.mpr ⟨_, mem_calls_deedsAt.mp hx, he⟩)

theorem birth_fresh {a : Action}
    (birth : ∀ b, a.birth? = some b → ∀ name, b.pid ∉ (h.room name).pids)
    {name : SessionName} {b : Session.Action} (ha : a.session? = some (name, b)) :
    ∀ c, b.birth? = some c → c.pid ∉ (h.room name).pids := by
  intro c hc
  exact birth c (by simp [Action.birth?, ha, hc]) name

/-- Seen from the room of a name, a run is a course. -/
theorem course (run : Run ds h) : ∀ name : SessionName,
    Session.Course name (deedsAt name ds) (h.room name) := by
  induction run with
  | start rooms roster trace =>
    rename_i h
    intro name
    have hr : h.room name = { name } := by simp [House.room, rooms]
    exact hr ▸ .start
  | act run a call birth ih =>
    rename_i ds h
    intro name
    have next {n : SessionName} {b : Session.Action} (ha : a.session? = some (n, b)) :
        Session.Course n (⟨h.room n, h.setting, b⟩ :: deedsAt n ds)
          ((h.room n).act h.setting b).room :=
      (ih n).act _ h.setting_sane b (call_fresh call ha) (birth_fresh birth ha)
    cases bearing name h a with
    | here b ha deeds =>
      rw [deeds, h.act_session ha, h.room_actRoom (next ha).name_eq, if_pos rfl]
      exact next ha
    | there n b ha ne deeds =>
      rw [deeds, h.act_session ha, h.room_actRoom (next ha).name_eq, if_neg ne.symm]
      exact ih name
    | aside side deeds =>
      rw [deeds, side.room]
      exact ih name
  | aside run aside ih =>
    intro name
    rw [aside.room]
    exact ih name

/-- An action changes the room that it is about, and no other. -/
theorem room_act (run : Run ds h) {a : Action}
    (call : ∀ q, a.call? = some q → q.1 ∉ (begun ds).map (·.1))
    (birth : ∀ b, a.birth? = some b → ∀ name, b.pid ∉ (h.room name).pids)
    {n : SessionName} {b : Session.Action} (ha : a.session? = some (n, b)) (name : SessionName) :
    (h.act a).house.room name =
      if name = n then ((h.room n).act h.setting b).room else h.room name := by
  have next := (run.course n).act _ h.setting_sane b (call_fresh call ha) (birth_fresh birth ha)
  rw [h.act_session ha]
  exact h.room_actRoom next.name_eq name

/-- What was done before was a run too. -/
theorem back {later earlier : List Deed} {d : Deed} (run : Run (later ++ d :: earlier) h) :
    Run earlier d.house ∧ (∀ q, d.action.call? = some q → q.1 ∉ (begun earlier).map (·.1)) ∧
    ∀ b, d.action.birth? = some b → ∀ name, b.pid ∉ (d.house.room name).pids := by
  generalize hds : later ++ d :: earlier = ds at run
  induction run generalizing later with
  | start => cases later <;> cases hds
  | act run a call birth ih =>
    cases later with
    | nil =>
      cases hds
      exact ⟨run, call, birth⟩
    | cons e later => exact ih (List.cons.inj hds).2
  | aside run aside ih => exact ih hds

/-! ### Calls -/

/-- No two calls have the same id. -/
theorem nodup_begun (run : Run ds h) : ((begun ds).map (·.1)).Nodup := by
  induction run with
  | start => exact .nil
  | act run a call birth ih =>
    rename_i ds h
    have hb : begun (⟨h, a⟩ :: ds) = a.call?.toList ++ begun ds := by
      unfold begun
      cases hc : a.call? <;> simp [hc]
    rw [hb]
    cases hc : a.call? with
    | none => exact ih
    | some q => exact List.nodup_cons.mpr ⟨call q hc, ih⟩
  | aside run aside ih => exact ih

theorem begun_unique (run : Run ds h) {id : CallId} {p q : SessionName × Session.Request}
    (hp : (id, p) ∈ begun ds) (hq : (id, q) ∈ begun ds) : p = q :=
  (Prod.mk.inj (List.inj_on_of_nodup_map run.nodup_begun hp hq rfl)).2

/-! ### What has happened -/

theorem trace_act {a : Action} {n : SessionName} {b : Session.Action}
    (ha : a.session? = some (n, b)) :
    (h.act a).house.trace = ((h.room n).act h.setting b).trace ++ h.trace := by
  rw [h.act_session ha]
  rfl

/-- What has happened at the latch of a name has happened in its room. -/
theorem passages_eq (run : Run ds h) (name : SessionName) :
    passages name h.trace = passages name (Session.log (deedsAt name ds)) := by
  induction run with
  | start rooms roster trace => rw [trace]; rfl
  | act run a call birth ih =>
    rename_i ds h
    cases bearing name h a with
    | here b ha deeds =>
      rw [trace_act ha, passages_append, ih, deeds]
      exact (passages_append _ _ _).symm
    | there n b ha ne deeds =>
      have c := run.course n
      have fits := c.fits (call_fresh call ha) (birth_fresh birth ha)
      rw [trace_act ha, passages_append, ih, deeds,
        c.sound.passages_act h.setting_sane fits (c.name_eq.symm ▸ ne)]
      rfl
    | aside side deeds =>
      obtain ⟨xs, hx, hs⟩ := side.trace
      rw [hx, passages_append, passages_of_aside name hs, ih, deeds]
      rfl
  | aside run aside ih =>
    obtain ⟨xs, hx, hs⟩ := aside.trace
    rw [hx, passages_append, passages_of_aside name hs, ih]
    rfl

/-- What was written in the room of a name was written, in the same order. -/
theorem writes_sublist (run : Run ds h) (name : SessionName) :
    (writes (Session.log (deedsAt name ds))).Sublist (writes h.trace) := by
  induction run with
  | start => exact List.nil_sublist _
  | act run a call birth ih =>
    rename_i ds h
    cases bearing name h a with
    | here b ha deeds =>
      rw [trace_act ha, writes_append, deeds, Session.Course.writes_log_cons]
      exact (List.Sublist.refl _).append ih
    | there n b ha ne deeds =>
      rw [trace_act ha, writes_append, deeds]
      exact List.sublist_append_of_sublist_right ih
    | aside side deeds =>
      obtain ⟨xs, hx, _⟩ := side.trace
      rw [hx, writes_append, deeds]
      exact List.sublist_append_of_sublist_right ih
  | aside run aside ih =>
    obtain ⟨xs, hx, _⟩ := aside.trace
    rw [hx, writes_append]
    exact List.sublist_append_of_sublist_right ih

/-- Whatever was written was written in some room. -/
theorem exists_name (run : Run ds h) {w : Write} (hw : w ∈ writes h.trace) :
    ∃ name, w ∈ writes (Session.log (deedsAt name ds)) := by
  induction run with
  | start rooms roster trace => rw [trace] at hw; cases hw
  | act run a call birth ih =>
    rename_i ds h
    have old (name : SessionName) (ho : w ∈ writes (Session.log (deedsAt name ds))) :
        w ∈ writes (Session.log (deedsAt name (⟨h, a⟩ :: ds))) := by
      cases bearing name h a with
      | here b ha deeds =>
        rw [deeds, Session.Course.writes_log_cons]
        exact List.mem_append_right _ ho
      | there n b ha ne deeds => rwa [deeds]
      | aside side deeds => rwa [deeds]
    cases ha : a.session? with
    | none =>
      obtain ⟨xs, hx, hs⟩ := (h.act_aside ha).trace
      rw [hx, writes_append, writes_of_aside hs] at hw
      exact (ih hw).imp old
    | some x =>
      obtain ⟨n, b⟩ := x
      rw [trace_act ha, writes_append] at hw
      rcases List.mem_append.mp hw with hw | hw
      · refine ⟨n, ?_⟩
        rw [deedsAt_cons_self ha, Session.Course.writes_log_cons]
        exact List.mem_append_left _ hw
      · exact (ih hw).imp old
  | aside run aside ih =>
    obtain ⟨xs, hx, hs⟩ := aside.trace
    rw [hx, writes_append, writes_of_aside hs] at hw
    exact ih hw

/-- Whatever a call has written was written in the room of the name that it was about. -/
theorem writes_of_name (run : Run ds h) {w : Write} (hw : w ∈ writes h.trace)
    {name : SessionName} {q : Session.Request} (hq : (w.call, name, q) ∈ begun ds) :
    w ∈ writes (Session.log (deedsAt name ds)) := by
  obtain ⟨n, hn⟩ := run.exists_name hw
  obtain ⟨line, hl, _⟩ := (run.course n).known w hn
  cases run.begun_unique hq (mem_calls_deedsAt.mp hl)
  exact hn

/-- No call writes twice. -/
theorem once (run : Run ds h) : ((writes h.trace).map (·.call)).Nodup := by
  induction run with
  | start rooms roster trace => rw [trace]; exact .nil
  | act run a call birth ih =>
    rename_i ds h
    have next := Run.act run a call birth
    cases ha : a.session? with
    | none =>
      obtain ⟨xs, hx, hs⟩ := (h.act_aside ha).trace
      rw [hx, writes_append, writes_of_aside hs]
      exact ih
    | some x =>
      obtain ⟨n, b⟩ := x
      have here := (next.course n).lined.once
      rw [deedsAt_cons_self ha, Session.Course.writes_log_cons, List.map_append] at here
      obtain ⟨fresh, _, apart⟩ := List.nodup_append.mp here
      rw [trace_act ha, writes_append, List.map_append]
      refine List.nodup_append.mpr ⟨fresh, ih, ?_⟩
      rintro i hi j hj rfl
      refine apart i hi i ?_ rfl
      obtain ⟨v, hv, hc⟩ := List.mem_map.mp hj
      -- The call of the new piece is one of this name, so the old piece was written here too.
      obtain ⟨w, hw, rfl⟩ := List.mem_map.mp hi
      have hw' : w ∈ writes (Session.log (deedsAt n (⟨h, a⟩ :: ds))) := by
        rw [deedsAt_cons_self ha, Session.Course.writes_log_cons]
        exact List.mem_append_left _ hw
      obtain ⟨line, hl, _⟩ := (next.course n).known w hw'
      obtain ⟨m, hm⟩ := run.exists_name hv
      obtain ⟨l, hk, _⟩ := (run.course m).known v hm
      have old : (w.call, m, .send l) ∈ begun (⟨h, a⟩ :: ds) := by
        rw [← hc]
        exact ((List.sublist_cons_self _ _).filterMap _).subset (mem_calls_deedsAt.mp hk)
      cases next.begun_unique old (mem_calls_deedsAt.mp hl)
      exact List.mem_map.mpr ⟨v, hm, hc⟩
  | aside run aside ih =>
    obtain ⟨xs, hx, hs⟩ := aside.trace
    rw [hx, writes_append, writes_of_aside hs]
    exact ih

/-! ### Sessions -/

/-- A session that was stopped stays so. -/
theorem stays_stopped (run : Run ds h) {d : Deed} (hd : d ∈ ds) {name : SessionName} {pid : Pid}
    (stopped : ((d.house.room name).child pid).isStopped) :
    ((h.room name).child pid).isStopped := by
  induction run with
  | start => cases hd
  | act run a call birth ih =>
    rename_i ds h
    have old : ((h.room name).child pid).isStopped := by
      rcases List.mem_cons.mp hd with rfl | hd
      · exact stopped
      · exact ih hd
    cases bearing name h a with
    | here b ha deeds =>
      rw [run.room_act call birth ha, if_pos rfl]
      have c := run.course name
      have fits := c.fits (call_fresh call ha) (birth_fresh birth ha)
      exact c.sound.act_handles (P := fun r => (r.child pid).isStopped) h.setting_sane fits
        (fun hh hs => hh.stays_stopped hs) old
    | there n b ha ne deeds =>
      rw [run.room_act call birth ha, if_neg ne.symm]
      exact old
    | aside side deeds =>
      rw [side.room]
      exact old
  | aside run aside ih =>
    rw [aside.room]
    exact ih hd

end Run

/-! ## Scripts -/

/-- Actions one after another: what was done with them, and the house in the end. -/
def play : List Deed → House → List Action → List Deed × House
  | ds, h, [] => (ds, h)
  | ds, h, a :: as => play (⟨h, a⟩ :: ds) (h.act a).house as

theorem play_append (ds : List Deed) (h : House) (as bs : List Action) :
    play ds h (as ++ bs) = play (play ds h as).1 (play ds h as).2 bs := by
  induction as generalizing ds h with
  | nil => rfl
  | cons a as ih => exact ih _ _

/-- Whether an action brings only new calls and new processes. -/
def Action.isNew (a : Action) (ds : List Deed) (h : House) : Bool :=
  (a.call?.all fun q => q.1 ∉ (begun ds).map (·.1)) &&
    (a.birth?.all fun b => h.rooms.all fun e => b.pid ∉ e.2.pids)

def areNew : List Deed → House → List Action → Bool
  | _, _, [] => true
  | ds, h, a :: as => a.isNew ds h && areNew (⟨h, a⟩ :: ds) (h.act a).house as

theorem House.not_mem_pids {h : House} {pid : Pid} (new : ∀ e ∈ h.rooms, pid ∉ e.2.pids)
    (name : SessionName) : pid ∉ (h.room name).pids := by
  unfold room
  cases hr : h.rooms.lookup name with
  | none => exact List.not_mem_nil
  | some r =>
    obtain ⟨before, after, he, _⟩ := List.lookup_eq_some_iff.mp hr
    exact new (name, r) (by simp [he])

/-- A script of new calls and new processes makes a run. -/
theorem Run.play {ds : List Deed} {h : House} (run : Run ds h) (as : List Action)
    (new : areNew ds h as) : Run (play ds h as).1 (play ds h as).2 := by
  induction as generalizing ds h with
  | nil => exact run
  | cons a as ih =>
    simp only [areNew, Action.isNew, Bool.and_eq_true] at new
    obtain ⟨⟨call, birth⟩, rest⟩ := new
    refine ih (run.act a ?_ ?_) rest
    · intro q hq
      simpa [hq] using call
    · intro b hb
      refine House.not_mem_pids ?_
      simpa [hb] using birth

/-- A house in which the artifact is where it should be, and nobody has asked for a session. -/
def furnished : House where
  location := { directory := some ⟨.here, []⟩, artifactName := .scalar (.text "t") }
  host := { files := { entries := [(["t"], .file [])] } }

theorem Run.furnished : Run [] furnished := .start rfl rfl rfl

/-! ## The roster -/

theorem mem_enroll {roster : List SessionName} {name n : SessionName} {before after : Option Pid}
    (same : n ∈ roster ↔ before.isSome) :
    name ∈ House.enroll roster n before after ↔
      if name = n then after.isSome = true else name ∈ roster := by
  unfold House.enroll
  by_cases hb : before = after
  · by_cases hn : name = n
    · simp [hb, hn, same]
    · simp [hb, hn]
  · by_cases hn : name = n
    · cases after <;> simp [hb, hn]
    · cases after <;> simp [hb, hn]

/-- The names on the roster are those under which a session is recorded. -/
theorem Run.mem_roster {ds : List Deed} {h : House} (run : Run ds h) :
    ∀ name, name ∈ h.roster ↔ (h.room name).recorded.isSome := by
  induction run with
  | start rooms roster trace => simp [roster, House.room, rooms]
  | act run a call birth ih =>
    rename_i ds h
    intro name
    cases ha : a.session? with
    | none =>
      have side := h.act_aside ha
      rw [side.roster, side.room]
      exact ih name
    | some x =>
      obtain ⟨n, b⟩ := x
      rw [run.room_act call birth ha, h.act_session ha]
      refine (mem_enroll (ih n)).trans ?_
      split
      · rfl
      · exact ih name
  | aside run aside ih =>
    rw [aside.roster]
    intro name
    rw [aside.room]
    exact ih name

end ToolHost

import Mathlib
import ToolHost.Proofs.Session.Joining

/-!
# The course of a room

A room begins empty, and then things are done in it in any order. All that is asked of the world is
that a new call has an id that no call had before and a new process a number that no process has.
What the modules before have shown of small steps holds in every room that comes about so.
-/
namespace ToolHost.Session

/-! ## What is sound about every room -/

structure Sound (f : Focus) (r : Room) : Prop where
  placed : Placed f r
  counted : Counted f r
  orderly : Orderly f r
  joins : r.JoinsEnded

theorem Move.sound {f g : Focus} {t u : Turn} (m : Move f t g u) (h : Sound f t.room) :
    Sound g u.room where
  placed := by
    refine m.placed h.placed ?_
    rintro v e rfl
    exact h.counted.sound
  counted := m.counted h.placed h.counted
  orderly := m.orderly h.placed h.counted h.orderly
  joins := m.joinsEnded h.placed h.counted h.orderly h.joins

theorem Sound.atRest {f : Focus} {r : Room} {i : Option CallId} (h : Sound f r) (o : f.IsOver i) :
    Sound .idle r :=
  ⟨h.placed.atRest o, h.counted.atRest o, h.orderly.atRest o, h.joins⟩

theorem Sound.call {r : Room} (h : Sound .idle r) {id : CallId} (fresh : id ∉ r.ids)
    (request : Request) : Sound (.calling id request) r :=
  ⟨h.placed.call fresh request, h.counted.keep rfl rfl rfl rfl (.inl rfl) rfl, h.orderly, h.joins⟩

theorem Sound.cancel {t : Turn} (h : Sound .idle t.room) (id : CallId) :
    Sound .idle (t.cancel id).room where
  placed := (cancel_spares t id h.placed.nodup).placed h.placed
  counted := (cancel_spares t id h.placed.nodup).counted h.counted
  orderly := cancel_orderly id h.placed h.counted h.orderly
  joins := cancel_joinsEnded id h.joins

/-- The call that an action begins. -/
def Action.call? : Action → Option (CallId × Request)
  | .begin id request => some (id, request)
  | _ => none

/-- What is asked of the world: new calls and new processes are new. -/
structure Action.Fits (a : Action) (r : Room) : Prop where
  call : ∀ q, a.call? = some q → q.1 ∉ r.ids
  birth : ∀ b, a.birth? = some b → b.pid ∉ r.pids

theorem Sound.focus {r : Room} (h : Sound .idle r) {a : Action} (fits : a.Fits r) :
    Sound a.focus r := by
  cases a with
  | begin id request => exact h.call (fits.call _ rfl) request
  | _ => exact h

/-- What small steps preserve in sound rooms is preserved by every action but a call's giving
up. -/
theorem Sound.act_preserves {P : Focus → Turn → Prop} {r : Room} (h : Sound .idle r) {s : Setting}
    (sane : s.Sane) {a : Action} (fits : a.Fits r) (calm : a.isCancel = false)
    (step : ∀ {f t g u}, Move f t g u → Sound f t.room → P f t → P g u)
    (start : P a.focus { room := r }) : ∃ f, f.IsOver a.subject? ∧ P f (r.act s a) := by
  obtain ⟨f, m, o⟩ := act_moves r sane a calm fits.birth h.placed.nodup h.placed.noLineInside
    h.placed.onlyLaunches h.joins
  have both : Sound f (r.act s a).room ∧ P f (r.act s a) :=
    m.preserves (P := fun f t => Sound f t.room ∧ P f t)
      (fun k hk => ⟨k.sound hk.1, step k hk.1 hk.2⟩) ⟨h.focus fits, start⟩
  exact ⟨f, o, both.2⟩

/-- What small steps preserve, and a call's giving up too, is preserved by every action. -/
theorem Sound.act_yields {P : Focus → Turn → Prop} {r : Room} (h : Sound .idle r) {s : Setting}
    (sane : s.Sane) {a : Action} (fits : a.Fits r)
    (step : ∀ {f t g u}, Move f t g u → Sound f t.room → P f t → P g u)
    (spare : ∀ {u}, Spares { room := r } u → P .idle { room := r } → P .idle u)
    (start : P a.focus { room := r }) : ∃ f, f.IsOver a.subject? ∧ P f (r.act s a) := by
  by_cases calm : a.isCancel = false
  · exact h.act_preserves sane fits calm step start
  · cases a with
    | cancel id => exact ⟨.idle, trivial, spare (cancel_spares _ id h.placed.nodup) start⟩
    | _ => exact absurd rfl calm

theorem Sound.act {r : Room} (h : Sound .idle r) {s : Setting} (sane : s.Sane) {a : Action}
    (fits : a.Fits r) : Sound .idle (r.act s a).room := by
  by_cases calm : a.isCancel = false
  · obtain ⟨f, o, hs⟩ := h.act_preserves (P := fun f t => Sound f t.room) sane fits calm
      (fun m hm _ => m.sound hm) (h.focus fits)
    exact hs.atRest o
  · cases a with
    | cancel id => exact h.cancel id
    | _ => exact absurd rfl calm

theorem Sound.empty (name : SessionName) : Sound .idle { name } where
  placed := ⟨.nil, (fun _ e => nomatch e), trivial, (fun _ h => nomatch h)⟩
  counted := ⟨⟨rfl, (fun _ e => nomatch e)⟩, (fun _ h => nomatch h), (fun _ e => nomatch e), rfl,
    by simp⟩
  orderly := ⟨rfl, .nil, (fun _ h => nomatch h), (fun _ h => nomatch h)⟩
  joins _ h := nomatch h

/-! ## Whose calls there are -/

/-- The call that a step is about. -/
def Focus.call? : Focus → Option (CallId × Request)
  | .calling id request | .through id request _ | .closed id request => some (id, request)
  | .sent id line => some (id, .send line)
  | .before v | .inside v _ | .behind v _ => some (v.id, v.request)
  | .idle => none

/-- A room of the given name in which there are only calls of some kind. -/
structure Houses (name : SessionName) (K : CallId × Request → Prop) (f : Focus) (r : Room) :
    Prop where
  name : r.name = name
  focus : ∀ q, f.call? = some q → K q
  callers : ∀ c ∈ r.places, K (c.id, c.request)

namespace Houses

variable {name : SessionName} {K : CallId × Request → Prop} {f g : Focus} {r q : Room}

theorem keep (h : Houses name K f r) (same : q.name = r.name) (places : q.places = r.places)
    (focus : g.call? = f.call?) : Houses name K g q where
  name := same.trans h.name
  focus c hc := h.focus c (focus ▸ hc)
  callers := places ▸ h.callers

theorem mono {L : CallId × Request → Prop} (h : Houses name K f r) (wider : ∀ q, K q → L q) :
    Houses name L f r :=
  ⟨h.name, fun q hq => wider q (h.focus q hq), fun c hc => wider _ (h.callers c hc)⟩

/-- The calls that wait, without the one that a step is about. -/
theorem alone (h : Houses name K f r) : Houses name K .idle r :=
  ⟨h.name, (fun _ e => nomatch e), h.callers⟩

theorem remove (h : Houses name K f r) (same : q.name = r.name) {c : Caller} (mem : c ∈ r.callers)
    (places : q.places = r.places.filter (·.id != c.id))
    (focus : g.call? = some (c.id, c.request)) : Houses name K g q where
  name := same.trans h.name
  focus x hx := by
    rw [focus] at hx
    cases hx
    exact h.callers c.place (Room.place_mem mem)
  callers d hd := by
    rw [places] at hd
    exact h.callers d (List.mem_filter.mp hd).1

theorem add (h : Houses name K f r) (same : q.name = r.name) {c : Caller}
    (places : q.places = r.places ++ [c]) (self : f.call? = some (c.id, c.request))
    (focus : g.call? = f.call?) : Houses name K g q where
  name := same.trans h.name
  focus x hx := h.focus x (focus ▸ hx)
  callers d hd := by
    rw [places] at hd
    rcases List.mem_append.mp hd with hd | hd
    · exact h.callers d hd
    · rw [List.mem_singleton.mp hd]
      exact h.focus _ self

theorem begins (h : Houses name K .idle r) {a : Action} (call : ∀ q, a.call? = some q → K q) :
    Houses name K a.focus r where
  name := h.name
  focus q hq := by
    cases a with
    | begin id request => exact call q hq
    | _ => cases hq
  callers := h.callers

end Houses

theorem Move.houses {name : SessionName} {K : CallId × Request → Prop} {f g : Focus} {t u : Turn}
    (m : Move f t g u) (s : Sound f t.room) (h : Houses name K f t.room) :
    Houses name K g u.room := by
  cases m with
  | drift hd _ => exact h.keep hd.name hd.places rfl
  | approach _ => exact h.keep rfl rfl rfl
  | enter _ => exact h.keep rfl rfl rfl
  | queue _ => exact h.add rfl (Turn.places_wait _ _) rfl rfl
  | letIn mem latch phase wake => exact h.remove rfl mem (by simp) rfl
  | retreat mem latch phase wake eq =>
    subst eq
    refine h.remove ?_ mem (by split <;> simp) rfl
    split
    · rfl
    · exact Turn.name_invite _ _ _
  | resume mem latch goesOn awake => exact h.remove rfl mem (Turn.places_unpark _ _) rfl
  | pass line => exact h.keep rfl rfl rfl
  | find request recorded live => exact h.keep rfl rfl rfl
  | miss line recorded => exact h.keep rfl rfl rfl
  | pop line recorded => exact h.keep rfl rfl rfl
  | reap hr => exact h.keep rfl rfl rfl
  | clear => exact h.keep rfl rfl rfl
  | park stage asleep => exact h.add rfl (Turn.places_parkIn _ _ _ _) rfl rfl
  | giveUp he => exact h.keep rfl rfl rfl
  | adopt dir b fresh => exact h.keep rfl rfl rfl
  | release => exact h.keep (Turn.name_invite _ _ _) (Turn.places_release _ _) rfl
  | depart users more => exact h.keep rfl rfl rfl
  | departLast users recorded => exact h.keep rfl rfl rfl
  | dropLatch users recorded latch => exact h.keep rfl rfl rfl
  | stumble lacks => exact absurd lacks s.counted.sound
  | direct hn => exact h.keep rfl rfl rfl
  | refuse hs => exact h.keep rfl rfl rfl
  | write live input => exact h.keep rfl rfl rfl
  | block => exact h.add rfl (Room.places_append _ _) rfl rfl
  | answer he => exact h.keep rfl rfl rfl
  | finish => exact h.keep rfl rfl rfl
  | drain mem phase he => exact h.remove rfl mem (Turn.places_unpark _ _) rfl
  | forsake mem latch => exact h.remove rfl mem (Turn.places_unpark _ _) rfl

theorem Houses.act {name : SessionName} {K : CallId × Request → Prop} {r : Room}
    (h : Houses name K .idle r) (sound : Sound .idle r) {s : Setting} (sane : s.Sane) {a : Action}
    (fits : a.Fits r) (call : ∀ q, a.call? = some q → K q) :
    Houses name K .idle (r.act s a).room := by
  have start : Houses name K a.focus r := h.begins call
  obtain ⟨f, _, hf⟩ := sound.act_yields (P := fun f t => Houses name K f t.room) sane fits
    (fun m hm hk => m.houses hm hk) (fun hs hk => hk.keep hs.name hs.places rfl) start
  exact hf.alone

/-! ## Courses -/

/-- Something that was done in a room, with what it found there. -/
structure Deed where
  room : Room
  setting : Setting
  action : Action

def Deed.turn (d : Deed) : Turn := d.room.act d.setting d.action

/-- The calls that have begun, the latest first. -/
def calls (ds : List Deed) : List (CallId × Request) := ds.filterMap (·.action.call?)

/-- What has happened, the latest first. -/
def log (ds : List Deed) : List Happening := ds.flatMap (·.turn.trace)

/-- All that was done in a room of the given name, the latest first, and the room now. -/
inductive Course (name : SessionName) : List Deed → Room → Prop
  | start : Course name [] { name }
  | act {ds : List Deed} {r : Room} (c : Course name ds r) (s : Setting) (sane : s.Sane) (a : Action)
      (call : ∀ q, a.call? = some q → q.1 ∉ (calls ds).map (·.1))
      (birth : ∀ b, a.birth? = some b → b.pid ∉ r.pids) :
      Course name (⟨r, s, a⟩ :: ds) (r.act s a).room

/-- Nobody was told to give up. -/
def Calm (ds : List Deed) : Prop := ∀ d ∈ ds, d.action.isCancel = false

theorem Calm.of_append {xs ys : List Deed} (h : Calm (xs ++ ys)) : Calm ys :=
  fun d hd => h d (List.mem_append_right _ hd)

theorem Calm.tail {d : Deed} {ds : List Deed} (h : Calm (d :: ds)) : Calm ds :=
  fun e he => h e (List.mem_cons_of_mem _ he)

theorem calls_cons (d : Deed) (ds : List Deed) :
    calls (d :: ds) = d.action.call?.toList ++ calls ds := by
  unfold calls
  cases h : d.action.call? <;> simp [h]

theorem mem_calls_cons {d : Deed} {ds : List Deed} {q : CallId × Request} :
    q ∈ calls (d :: ds) ↔ d.action.call? = some q ∨ q ∈ calls ds := by
  rw [calls_cons]
  cases d.action.call? <;> simp [eq_comm]

namespace Course

variable {name : SessionName} {ds : List Deed} {r : Room}

/-- A call that waits has begun. -/
def Has (ds : List Deed) (q : CallId × Request) : Prop := q ∈ calls ds

theorem fits_of (h : Houses name (Has ds) .idle r) {a : Action}
    (call : ∀ q, a.call? = some q → q.1 ∉ (calls ds).map (·.1))
    (birth : ∀ b, a.birth? = some b → b.pid ∉ r.pids) : a.Fits r := by
  refine ⟨?_, birth⟩
  intro q hq hm
  rw [Room.ids_eq] at hm
  obtain ⟨c, hc, he⟩ := List.mem_map.mp hm
  exact call q hq (List.mem_map.mpr ⟨_, h.callers c hc, he⟩)

theorem invariant (c : Course name ds r) : Sound .idle r ∧ Houses name (Has ds) .idle r := by
  induction c with
  | start => exact ⟨.empty name, rfl, (fun _ e => nomatch e), (fun _ h => nomatch h)⟩
  | act c s sane a call birth ih =>
    rename_i ds r
    have fits := fits_of ih.2 call birth
    refine ⟨ih.1.act sane fits, ?_⟩
    have wider : Houses name (Has (⟨r, s, a⟩ :: ds)) .idle r :=
      ih.2.mono fun q hq => mem_calls_cons.mpr (.inr hq)
    exact wider.act ih.1 sane fits fun q hq => mem_calls_cons.mpr (.inl hq)

theorem sound (c : Course name ds r) : Sound .idle r := c.invariant.1

theorem fits (c : Course name ds r) {a : Action}
    (call : ∀ q, a.call? = some q → q.1 ∉ (calls ds).map (·.1))
    (birth : ∀ b, a.birth? = some b → b.pid ∉ r.pids) : a.Fits r := fits_of c.invariant.2 call birth

theorem name_eq (c : Course name ds r) : r.name = name := c.invariant.2.name

/-- When something is done, all calls have begun, the one that begins there among them. -/
theorem houses_focus (c : Course name ds r) (s : Setting) (a : Action) :
    Houses name (Has (⟨r, s, a⟩ :: ds)) a.focus r := by
  have wider : Houses name (Has (⟨r, s, a⟩ :: ds)) .idle r :=
    c.invariant.2.mono fun q hq => mem_calls_cons.mpr (.inr hq)
  exact wider.begins fun q hq => mem_calls_cons.mpr (.inl hq)

theorem has_call (c : Course name ds r) {d : Caller} (mem : d ∈ r.callers) :
    (d.id, d.request) ∈ calls ds := c.invariant.2.callers d.place (Room.place_mem mem)

/-- No two calls have the same id. -/
theorem nodup_calls (c : Course name ds r) : ((calls ds).map (·.1)).Nodup := by
  induction c with
  | start => exact .nil
  | act c s sane a call birth ih =>
    rw [calls_cons]
    cases hq : a.call? with
    | none => simpa [hq] using ih
    | some q => simpa [hq] using ⟨by simpa using call q hq, ih⟩

theorem request_unique (c : Course name ds r) {id : CallId} {p q : Request}
    (hp : (id, p) ∈ calls ds) (hq : (id, q) ∈ calls ds) : p = q := by
  have := List.inj_on_of_nodup_map c.nodup_calls hp hq rfl
  exact (Prod.mk.inj this).2

end Course

end ToolHost.Session

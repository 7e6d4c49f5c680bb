import Mathlib
import ToolHost.Proofs.Session.Queue
import ToolHost.Proofs.Session.Trailing

/-!
# Closing a room

Calls come inside in the order in which they began. So once a stop has come inside that began after
every call that creates processes, none of those is left; and when it has come to its end, nothing
is recorded and nothing runs. That stays so as long as no call begins that creates a process.
-/
namespace ToolHost.Session

/-- A call that creates no process. -/
def Harmless (q : CallId × Request) : Prop := q.2.launches = false

/-! ## Rooms that stay empty -/

/-- A step of a call that creates no process brings none to run and records none. -/
theorem Move.rests {f g : Focus} {t u : Turn} (m : Move f t g u) (s : Sound f t.room)
    (harmless : ∀ q, f.call? = some q → Harmless q) :
    t.room.Rests u.room ∧ (t.room.recorded = none → u.room.recorded = none) := by
  cases m with
  | drift hd _ => exact ⟨.of_drift hd, fun h => hd.recorded.trans h⟩
  | retreat mem latch phase wake eq =>
    subst eq
    split
    · exact ⟨.of_children rfl, id⟩
    · exact ⟨.of_children (Turn.children_invite _ _ _),
        fun h => (Turn.recorded_invite _ _ _).trans h⟩
  | pop line recorded =>
    exact ⟨⟨fun p => (Room.runs_pop t _ p).mp, fun p => (Room.relays_pop t _ p).mp⟩, fun _ => rfl⟩
  | adopt dir b fresh launches =>
    have none := harmless _ rfl
    unfold Harmless at none
    rw [launches] at none
    cases none
  | release =>
    exact ⟨.of_children (Turn.children_invite _ _ _),
      fun h => (Turn.recorded_invite _ _ _).trans h⟩
  | stumble lacks => exact absurd lacks s.counted.sound
  | _ => exact ⟨.of_children rfl, id⟩

/-- Nothing is recorded, nothing runs and no relay goes on, and no call is there that creates a
process. -/
structure Closed (name : SessionName) (f : Focus) (r : Room) : Prop where
  vacant : Stage.vacant.Holds r
  harmless : Houses name Harmless f r

theorem Move.closed {name : SessionName} {f g : Focus} {t u : Turn} (m : Move f t g u)
    (s : Sound f t.room) (h : Closed name f t.room) : Closed name g u.room := by
  obtain ⟨rests, recorded⟩ := m.rests s h.harmless.focus
  exact ⟨⟨recorded h.vacant.1, fun p hp => h.vacant.2 p (rests.works hp)⟩, m.houses s h.harmless⟩

theorem Closed.act {name : SessionName} {r : Room} (h : Closed name .idle r)
    (sound : Sound .idle r) {s : Setting} (sane : s.Sane) {a : Action} (fits : a.Fits r)
    (harmless : ∀ q, a.call? = some q → Harmless q) : Closed name .idle (r.act s a).room := by
  have start : Closed name a.focus r := ⟨h.vacant, h.harmless.begins harmless⟩
  obtain ⟨f, _, hf⟩ := sound.act_yields (P := fun f t => Closed name f t.room) sane fits
    (fun m hm hk => m.closed hm hk)
    (fun hs hk => ⟨hk.vacant.mono hs.recorded (.of_children hs.children),
      hk.harmless.keep hs.name hs.places rfl⟩) start
  exact ⟨hf.vacant, hf.harmless.alone⟩

/-! ## The last call in the queue -/

/-- Of the given calls this is a stop, and those that create processes began before it. -/
structure Last (id : CallId) (given : List CallId) (K : CallId × Request → Prop) : Prop where
  nodup : given.Nodup
  stop : ∀ q, K (id, q) → q = .stop
  first : ∀ e, K e → e.2.launches → [e.1, id].Sublist given

/-- The call is still to come inside, or no call is left that creates a process. -/
def Outlasts (name : SessionName) (id : CallId) (f : Focus) (r : Room) : Prop :=
  (f.arriving? = some id ∨ id ∈ r.waiting.map (·.id)) ∨ Houses name Harmless f r

theorem Outlasts.begins {name : SessionName} {id : CallId} {r : Room}
    (h : Outlasts name id .idle r) {a : Action} (harmless : ∀ q, a.call? = some q → Harmless q) :
    Outlasts name id a.focus r := by
  rcases h with (e | waits) | left
  · cases e
  · exact .inl (.inr waits)
  · exact .inr (left.begins harmless)

namespace Last

variable {name : SessionName} {id : CallId} {given : List CallId} {K : CallId × Request → Prop}
  {f : Focus} {r : Room}

theorem harmless (l : Last id given K) {q : Request} (h : K (id, q)) : Harmless (id, q) := by
  unfold Harmless
  rw [l.stop q h]
  rfl

/-- While nobody is inside, a call that creates a process waits before the last one. -/
theorem harmless_of_behind (l : Last id given K) (s : Sound f r) (h : Houses name K f r)
    (none : r.insiders = 0) {c : Caller} (mem : c ∈ r.callers)
    (behind : c ∈ r.waiting → [id, c.id].Sublist given) : Harmless (c.id, c.request) := by
  have stageless := s.no_stage none mem
  cases hp : c.phase with
  | queued =>
    by_contra launches
    have before := l.first (c.id, c.request) (h.callers c.place (Room.place_mem mem))
      (eq_true_of_ne_false launches)
    exact not_sublist_of_sublist l.nodup before (behind (Room.mem_waiting.mpr ⟨mem, hp⟩))
  | draining =>
    have line := (s.placed.suits mem).draining hp
    unfold Harmless
    cases hq : c.request with
    | send line => rfl
    | _ => rw [hq] at line; cases line
  | _ => rw [hp] at stageless; cases stageless

end Last

theorem Move.outlasts {name : SessionName} {id : CallId} {given : List CallId}
    {K : CallId × Request → Prop} {f g : Focus} {t u : Turn} (m : Move f t g u)
    (s : Sound f t.room) (tidy : Tidy f t.room) (last : Last id given K)
    (lining : Lining given f t.room) (houses : Houses name K f t.room)
    (h : Outlasts name id f t.room) : Outlasts name id g u.room := by
  rcases h with h | h
  case inr => exact .inr (m.houses s h)
  have after := m.houses s houses
  have keep {g : Focus} {u : Turn} (arriving : g.arriving? = f.arriving? ∨ f.arriving? = none)
      (waiting : u.room.waiting.map (·.id) = t.room.waiting.map (·.id)) :
      Outlasts name id g u.room := by
    refine .inl ?_
    rw [waiting]
    refine h.imp_left fun ha => ?_
    rcases arriving with e | e
    · exact e.trans ha
    · rw [e] at ha
      cases ha
  have unparked {c : Caller} (mem : c ∈ t.room.callers) (phase : c.phase ≠ .queued) :
      (t.unpark c.id).room.waiting.map (·.id) = t.room.waiting.map (·.id) := by
    rw [Turn.waiting_unpark_ne s.placed.nodup mem phase]
  cases m with
  | drift hd _ => exact keep (.inl rfl) (by rw [hd.waiting])
  | approach _ => exact keep (.inl rfl) rfl
  | enter ho =>
    rename_i v
    rw [← Room.gate_eq (s.counted.visit _ rfl)] at ho
    have empty := tidy.waiting_of_open s ho
    have none := s.insiders_of_free (Latch.Orderly.open_calm ho).1
    rw [empty] at h
    have own : v.id = id := h.elim Option.some.inj (fun hm => nomatch hm)
    refine .inr ⟨after.name, ?_, fun c hc => ?_⟩
    · rintro q ⟨⟩
      have hk := houses.focus _ rfl
      rw [own] at hk ⊢
      exact last.harmless hk
    · obtain ⟨d, hd, rfl⟩ := List.mem_map.mp hc
      refine last.harmless_of_behind s houses none (c := d) hd fun hw => ?_
      rw [empty] at hw
      cases hw
  | queue _ =>
    rename_i v _
    refine .inl (.inr ?_)
    rw [Turn.waiting_wait, List.map_append]
    rcases h with h | h
    · exact List.mem_append_right _ (by simp [← Option.some.inj h])
    · exact List.mem_append_left _ h
  | letIn mem latch phase wake =>
    rename_i c n
    have front := s.waiting_of_woken mem phase wake
    have waits : id ∈ t.room.waiting.map (·.id) := h.resolve_left fun e => nomatch e
    by_cases own : c.id = id
    · have none := s.insiders_of_free
        (Latch.Orderly.of_woken s.orderly (Room.mem_waiting.mpr ⟨mem, phase⟩) wake).1
      refine .inr ⟨after.name, ?_, fun e he => ?_⟩
      · rintro q ⟨⟩
        have hk := houses.callers c.place (Room.place_mem mem)
        rw [Caller.place_id, own] at hk
        have harmless := last.harmless hk
        rwa [← own] at harmless
      · obtain ⟨d, hd, rfl⟩ := List.mem_map.mp he
        obtain ⟨hd, ne⟩ := List.mem_filter.mp hd
        refine last.harmless_of_behind s houses none (c := d) hd fun hm => ?_
        have line : (t.room.waiting.map (·.id)).Sublist given := by
          simpa [Lining, Focus.arriving?] using lining
        rw [front, own] at line
        refine .trans (.cons_cons id (List.singleton_sublist.mpr ?_)) line
        exact List.mem_map_of_mem (List.mem_filter.mpr ⟨hm, own ▸ ne⟩)
    · refine .inl (.inr ?_)
      change id ∈ (t.unpark c.id).room.waiting.map (·.id)
      rw [front] at waits
      rw [Turn.waiting_unpark]
      exact (List.mem_cons.mp waits).resolve_left (Ne.symm own)
  | retreat mem latch phase wake eq => exact absurd wake (tidy.calm _ mem)
  | resume mem latch goesOn awake =>
    rename_i c n st
    exact keep (.inr rfl) (unparked mem (Phase.ne_queued_of_goesOn goesOn))
  | park stage asleep =>
    rename_i v st phase wake
    exact keep (.inl rfl) (by rw [t.waiting_parkIn v (Phase.ne_queued_of_stage stage) wake])
  | release => exact keep (.inl rfl) (Turn.waiting_ids_invite _ _ _)
  | stumble lacks => exact absurd lacks s.counted.sound
  | direct hn =>
    rename_i i line
    refine .inl (.inr (h.resolve_left fun e => ?_))
    cases e
    cases last.stop _ (houses.focus _ rfl)
  | block =>
    rename_i i line
    exact keep (.inl rfl) (by rw [Turn.waiting_block])
  | drain mem phase he => exact keep (.inr rfl) (unparked mem (by simp [phase]))
  | forsake mem latch =>
    have phase := (s.placed.suits mem).latch.mp latch
    exact keep (.inr rfl) (unparked mem (by simp [phase]))
  | _ => exact keep (.inl rfl) rfl

/-! ## Courses -/

/-- Of what was done, the call is a stop, and the calls that create processes began before it. -/
def Concludes (id : CallId) (ds : List Deed) : Prop :=
  (id, .stop) ∈ calls ds ∧
    ∀ e ∈ calls ds, e.2.launches → [id, e.1].Sublist ((calls ds).map (·.1))

namespace Concludes

variable {id : CallId} {d : Deed} {ds : List Deed}

theorem begin (begins : d.action.call? = some (id, .stop)) : Concludes id (d :: ds) := by
  have eq : calls (d :: ds) = (id, .stop) :: calls ds := by rw [calls_cons, begins]; rfl
  unfold Concludes
  rw [eq]
  refine ⟨List.mem_cons_self, fun e he launches => ?_⟩
  rcases List.mem_cons.mp he with rfl | he
  · cases launches
  · exact .cons_cons id (List.singleton_sublist.mpr (List.mem_map_of_mem he))

/-- No call begins that creates a process. -/
theorem cons (h : Concludes id ds) (harmless : ∀ q, d.action.call? = some q → Harmless q) :
    Concludes id (d :: ds) := by
  refine ⟨mem_calls_cons.mpr (.inr h.1), fun e he launches => ?_⟩
  rcases mem_calls_cons.mp he with he | he
  · have none := harmless e he
    unfold Harmless at none
    rw [launches] at none
    cases none
  · rw [calls_cons, List.map_append]
    exact List.sublist_append_of_sublist_right (h.2 e he launches)

end Concludes

/-- The call has come to its end. -/
def Ended (id : CallId) (ds : List Deed) : Prop := ∃ d ∈ ds, ∃ e, d.turn.returned = some (id, e)

namespace Course

variable {name : SessionName} {later ds : List Deed} {r q : Room}

theorem last (c : Course name ds r) {id : CallId} (h : Concludes id ds) :
    Last id ((calls ds).map (·.1)).reverse (Has ds) where
  nodup := List.nodup_reverse.mpr c.nodup_calls
  stop _ hq := c.request_unique hq h.1
  first e he launches := by simpa using (h.2 e he launches).reverse

/-- A call that concludes waits, or no call is left that creates a process. -/
theorem outlasts_act (c : Course name ds r) (tidy : Tidy .idle r) {s : Setting} (sane : s.Sane)
    {a : Action} (call : ∀ q, a.call? = some q → q.1 ∉ (calls ds).map (·.1))
    (birth : ∀ b, a.birth? = some b → b.pid ∉ r.pids) (calm : a.isCancel = false) {id : CallId}
    (concludes : Concludes id (⟨r, s, a⟩ :: ds)) (start : Outlasts name id a.focus r) :
    Outlasts name id .idle (r.act s a).room := by
  have next := c.act s sane a call birth
  have lining : Lining ((calls (⟨r, s, a⟩ :: ds)).map (·.1)).reverse a.focus r := by
    have own : a.focus.arriving?.toList = (a.call?.toList.map (·.1)).reverse := by
      cases a <;> rfl
    rw [Lining, own, calls_cons, List.map_append, List.reverse_append]
    exact c.waiting_sublist.append (.refl _)
  have last := next.last concludes
  generalize ((calls (⟨r, s, a⟩ :: ds)).map (·.1)).reverse = given at lining last
  obtain ⟨f, o, _, _, ho⟩ := c.act_calm
    (P := fun f t => Lining given f t.room ∧ Houses name (Has (⟨r, s, a⟩ :: ds)) f t.room ∧
      Outlasts name id f t.room)
    tidy sane call birth calm
    (fun m hm ht hk => ⟨m.lining hm hk.1, m.houses hm hk.2.1,
      m.outlasts hm ht last hk.1 hk.2.1 hk.2.2⟩)
    ⟨lining, c.houses_focus s a, start⟩
  rcases ho with ho | ho
  · refine .inl (.inr (ho.resolve_left fun e => ?_))
    cases f with
    | idle => cases e
    | closed _ _ => cases e
    | _ => cases o
  · exact .inr ho.alone

/-- Once a call that concludes has come to its end, which is no failure, the room is closed. -/
theorem closed_of_returned {d : Deed} (c : Course name (d :: ds) r) (calm : Calm (d :: ds))
    {id : CallId} {e : Ending} (returned : d.turn.returned = some (id, e))
    (stop : (id, .stop) ∈ calls (d :: ds)) (h : Outlasts name id .idle r) :
    e = .done ∧ Closed name .idle r := by
  have out := (c.gone List.mem_cons_self returned).1
  obtain ⟨done, vacant⟩ := c.emptied calm List.mem_cons_self returned stop
  refine ⟨done, ?_, h.resolve_left ?_⟩
  · cases c
    exact vacant
  · rintro (e | waits)
    · cases e
    · exact out ((List.filter_sublist.map _).subset waits)

/-- A room in which all calls that create processes have come to their end. -/
theorem harmless_of_ended (c : Course name ds r)
    (launches : ∀ id q, (id, q) ∈ calls ds → q.launches → Ended id ds) :
    Houses name Harmless .idle r := by
  refine ⟨c.name_eq, (fun _ e => nomatch e), fun p hp => ?_⟩
  obtain ⟨x, hx, rfl⟩ := List.mem_map.mp hp
  by_contra launching
  obtain ⟨d, hd, e, returned⟩ := launches x.id x.request (c.has_call hx)
    (eq_true_of_ne_false launching)
  exact (c.gone hd returned).1 (List.mem_map_of_mem hx)

/-- A room in which nothing is recorded and all calls but those that send lines have come to their
end. -/
theorem closed_of_ended (c : Course name ds r) (calm : Calm ds) (recorded : r.recorded = none)
    (others : ∀ id q, (id, q) ∈ calls ds → q.isLine = false → Ended id ds) :
    Closed name .idle r := by
  have harmless : Houses name Harmless .idle r := c.harmless_of_ended fun id q hq launches =>
    others id q hq (by cases q <;> first | rfl | cases launches)
  have outside : r.insiders = 0 := by
    rw [Room.insiders, List.countP_eq_zero]
    intro p hp
    obtain ⟨x, hx, rfl⟩ := List.mem_map.mp hp
    have line : x.request.isLine := by
      by_contra other
      obtain ⟨d, hd, e, returned⟩ := others x.id x.request (c.has_call hx) (by simpa using other)
      exact (c.gone hd returned).1 (List.mem_map_of_mem hx)
    rcases (c.sound.placed.suits hx).line line with phase | phase
    · simp [Caller.isInside, phase]
    · simp [Caller.isInside, (c.sound.placed.suits hx).latch.mpr phase]
  have free : r.gate.isHeld = false := by
    have inside := c.sound.orderly.inside
    by_contra held
    rw [outside, if_pos (eq_true_of_ne_false held)] at inside
    cases inside
  refine ⟨⟨recorded, fun p hp => ?_⟩, harmless⟩
  have owned := (c.tidy calm).free free p hp
  rw [recorded] at owned
  cases owned

/-- What every action preserves that begins no call but the later ones is preserved. -/
theorem preserved {P : Room → Prop} (c : Course name ds r) (k : Course name (later ++ ds) q)
    (step : ∀ {r s a}, Sound .idle r → s.Sane → a.Fits r →
      (∀ p, a.call? = some p → p ∈ calls later) → P r → P (r.act s a).room)
    (start : P r) : P q := by
  induction later generalizing q with
  | nil =>
    rw [c.room_unique k]
    exact start
  | cons d later ih =>
    cases k with
    | act k s sane a call birth =>
      have before := ih k fun hs sane fits known =>
        step hs sane fits fun p hp => mem_calls_cons.mpr (.inr (known p hp))
      exact step k.sound sane (k.fits call birth) (fun p hp => mem_calls_cons.mpr (.inl hp)) before

/-- A closed room stays so as long as no call begins that creates a process. -/
theorem stays_closed (c : Course name ds r) (k : Course name (later ++ ds) q)
    (harmless : ∀ p ∈ calls later, Harmless p) (closed : Closed name .idle r) :
    Closed name .idle q :=
  c.preserved k (fun hs sane fits known h => h.act hs sane fits fun p hp => harmless p (known p hp))
    closed

/-- Where no call is left that creates a process and nothing is recorded, the room is closed when
the stops under way have come to their end. -/
theorem closes (c : Course name ds r) (k : Course name (later ++ ds) q) (calm : Calm (later ++ ds))
    (harmless : ∀ p ∈ calls later, Harmless p) (recorded : r.recorded = none)
    (launches : ∀ id p, (id, p) ∈ calls ds → p.launches → Ended id ds)
    (stops : ∀ id, (id, .stop) ∈ calls ds → Ended id (later ++ ds)) : Closed name .idle q := by
  by_cases all : ∀ id, (id, .stop) ∈ calls ds → Ended id ds
  · refine c.stays_closed k harmless (c.closed_of_ended ?_ recorded fun id p hp line => ?_)
    · exact fun d hd => calm d (List.mem_append_right _ hd)
    · cases p with
      | stop => exact all id hp
      | send line => cases line
      | _ => exact launches id _ hp rfl
  · obtain ⟨id, stop, going⟩ : ∃ id, (id, .stop) ∈ calls ds ∧ ¬ Ended id ds := by
      simpa using all
    obtain ⟨d, hd, e, returned⟩ := stops id stop
    have hd : d ∈ later :=
      (List.mem_append.mp hd).resolve_right fun hd => going ⟨d, hd, e, returned⟩
    obtain ⟨xs, ys, rfl⟩ := List.append_of_mem hd
    have split : (xs ++ d :: ys) ++ ds = xs ++ (d :: ys ++ ds) := by simp
    rw [split] at k calm
    rw [calls_append] at harmless
    have m : Course name (d :: ys ++ ds) d.turn.room := by
      obtain ⟨before, sane, call, fits⟩ := k.back
      exact before.act _ sane _ call fits.birth
    have vacant := (k.emptied calm (d := d) (by simp) returned (by
      rw [calls_append]
      exact List.mem_append_right _ (calls_append (d :: ys) ds ▸ List.mem_append_right _ stop))).2
    have left : Houses name Harmless .idle d.turn.room := by
      refine c.preserved (P := Houses name Harmless .idle) m (fun hs sane fits known h => ?_)
        (c.harmless_of_ended launches)
      exact h.act hs sane fits fun p hp => harmless p (List.mem_append_right _ (known p hp))
    exact m.stays_closed k (fun p hp => harmless p (List.mem_append_left _ hp)) ⟨vacant, left⟩

end Course

end ToolHost.Session

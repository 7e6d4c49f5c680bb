import Mathlib
import ToolHost.Proofs.Session.Delivery
import ToolHost.Proofs.Session.Sections

/-!
# The order of the lines

Calls wait in the order in which they began, and only the first of those that wait is let in. So a
line is written after those that began before it, except where it begins while the latch is open
and another line still waits that has leave to enter: then it overtakes that line, and this is the
only way in which one line overtakes another.
-/
namespace ToolHost.Session

/-! ## Two members of a list -/

theorem not_sublist_of_sublist {α : Type} {l : List α} (nodup : l.Nodup) {a b : α}
    (h : [a, b].Sublist l) : ¬ [b, a].Sublist l := by
  intro k
  induction l with
  | nil => cases h
  | cons x xs ih =>
    obtain ⟨out, nodup⟩ := List.nodup_cons.mp nodup
    cases h with
    | cons _ h =>
      cases k with
      | cons _ k => exact ih nodup h k
      | cons_cons _ _ => exact out (h.subset (by simp))
    | cons_cons _ h =>
      cases k with
      | cons _ k => exact out (k.subset (by simp))
      | cons_cons _ _ => exact out (h.subset (by simp))

theorem pair_sublist_append {α : Type} {xs ys : List α} {a b : α} (ha : a ∈ xs) (hb : b ∈ ys) :
    [a, b].Sublist (xs ++ ys) :=
  (List.singleton_sublist.mpr ha).append (List.singleton_sublist.mpr hb)

theorem pair_of_append {α : Type} {xs ys : List α} {a b : α} (h : [a, b].Sublist (xs ++ ys)) :
    [a, b].Sublist xs ∨ a ∈ xs ∧ b ∈ ys ∨ [a, b].Sublist ys := by
  obtain ⟨us, vs, he, hu, hv⟩ := List.sublist_append_iff.mp h
  match us, vs, he with
  | [], _, rfl => exact .inr (.inr hv)
  | [_], _, rfl => exact .inr (.inl ⟨hu.subset (by simp), hv.subset (by simp)⟩)
  | [_, _], [], rfl => exact .inl hu

theorem pair_sublist_getLast {α : Type} {l : List α} {a b : α} (ha : a ∈ l)
    (last : l.getLast? = some b) (ne : a ≠ b) : [a, b].Sublist l := by
  obtain ⟨xs, rfl⟩ := List.getLast?_eq_some_iff.mp last
  rcases List.mem_append.mp ha with ha | ha
  · exact pair_sublist_append ha (List.mem_singleton_self b)
  · exact absurd (List.mem_singleton.mp ha) ne

/-! ## Who waits -/

/-- A call that may still come to wait in the queue. -/
def Focus.arriving? : Focus → Option CallId
  | .calling id _ => some id
  | .before v => some v.id
  | _ => none

/-- Those that wait or may come to wait are, in their order, among the given. -/
def Lining (given : List CallId) (f : Focus) (r : Room) : Prop :=
  (r.waiting.map (·.id) ++ f.arriving?.toList).Sublist given

theorem Room.waiting_ids_congr {r q : Room} (places : q.places = r.places) :
    q.waiting.map (·.id) = r.waiting.map (·.id) := by
  have ids (r : Room) : r.waiting.map (·.id) = (r.places.filter Caller.isQueued).map (·.id) := by
    unfold Room.waiting Room.places
    rw [List.filter_map, List.map_map]
    rfl
  rw [ids, ids, places]

theorem Lining.shrink {given : List CallId} {f g : Focus} {r q : Room} (h : Lining given f r)
    (waiting : (q.waiting.map (·.id)).Sublist (r.waiting.map (·.id)))
    (arriving : g.arriving? = f.arriving? ∨ g.arriving? = none) : Lining given g q := by
  refine List.Sublist.trans (waiting.append ?_) h
  rcases arriving with e | e <;> rw [e]
  exact List.nil_sublist _

theorem Move.lining {given : List CallId} {f g : Focus} {t u : Turn} (m : Move f t g u)
    (s : Sound f t.room) (h : Lining given f t.room) : Lining given g u.room := by
  have unparked (id : CallId) :
      ((t.unpark id).room.waiting.map (·.id)).Sublist (t.room.waiting.map (·.id)) := by
    rw [Turn.waiting_unpark]
    exact (List.filter_sublist).map _
  cases m with
  | drift hd _ => exact h.shrink (hd.waiting ▸ .refl _) (.inl rfl)
  | approach _ => exact h.shrink (.refl _) (.inl rfl)
  | enter _ => exact h.shrink (.refl _) (.inr rfl)
  | queue _ =>
    rename_i v _
    unfold Lining
    rw [Turn.waiting_wait, List.map_append]
    simpa [Lining, Focus.arriving?] using h
  | letIn mem latch phase wake => exact h.shrink (unparked _) (.inl rfl)
  | retreat mem latch phase wake eq =>
    subst eq
    refine h.shrink ?_ (.inl rfl)
    split
    · exact unparked _
    · rw [Turn.waiting_ids_invite]
      exact unparked _
  | resume mem latch goesOn awake => exact h.shrink (unparked _) (.inl rfl)
  | pass line => exact h.shrink (.refl _) (.inl rfl)
  | find request recorded live => exact h.shrink (.refl _) (.inl rfl)
  | miss line recorded => exact h.shrink (.refl _) (.inl rfl)
  | pop line recorded => exact h.shrink (.refl _) (.inl rfl)
  | reap hr => exact h.shrink (.refl _) (.inl rfl)
  | clear => exact h.shrink (.refl _) (.inl rfl)
  | park stage asleep =>
    rename_i v s phase wake
    have hw := t.waiting_parkIn v (Phase.ne_queued_of_stage stage) wake
    exact h.shrink (hw ▸ .refl _) (.inl rfl)
  | giveUp he => exact h.shrink (.refl _) (.inl rfl)
  | adopt dir b fresh => exact h.shrink (.refl _) (.inl rfl)
  | release =>
    refine h.shrink ?_ (.inl rfl)
    rw [Turn.release, Turn.waiting_ids_invite]
    exact .refl _
  | depart users more => exact h.shrink (.refl _) (.inl rfl)
  | departLast users recorded => exact h.shrink (.refl _) (.inl rfl)
  | dropLatch users recorded latch => exact h.shrink (.refl _) (.inl rfl)
  | stumble lacks => exact absurd lacks s.counted.sound
  | direct hn => exact h.shrink (.refl _) (.inr rfl)
  | refuse hs => exact h.shrink (.refl _) (.inl rfl)
  | write live input => exact h.shrink (.refl _) (.inl rfl)
  | block =>
    rename_i id line
    exact h.shrink (t.waiting_block id line ▸ .refl _) (.inl rfl)
  | answer he => exact h.shrink (.refl _) (.inl rfl)
  | finish => exact h.shrink (.refl _) (.inl rfl)
  | drain mem phase he => exact h.shrink (unparked _) (.inl rfl)
  | forsake mem latch => exact h.shrink (unparked _) (.inl rfl)

/-- After an action those wait, in the order in which they did, who waited before, and last the call
that begins. -/
theorem Sound.waiting_act {r : Room} (h : Sound .idle r) {s : Setting} (sane : s.Sane) {a : Action}
    (fits : a.Fits r) : ((r.act s a).room.waiting.map (·.id)).Sublist
      (r.waiting.map (·.id) ++ (a.call?.map (·.1)).toList) := by
  have start : Lining (r.waiting.map (·.id) ++ (a.call?.map (·.1)).toList) a.focus r := by
    cases a <;> exact List.Sublist.refl _
  obtain ⟨f, _, hf⟩ := h.act_yields (P := fun f t => Lining _ f t.room) sane fits
    (fun m hm hk => m.lining hm hk)
    (fun hs hk => hk.shrink (Room.waiting_ids_congr hs.places ▸ .refl _) (.inl rfl)) start
  exact (List.sublist_append_left _ _).trans hf

/-! ## Two ways for a line to begin -/

/-- A line that begins while somebody holds the latch waits and writes nothing. -/
theorem Room.writes_begin_of_held {r : Room} (held : r.gate.isHeld) (s : Setting) (id : CallId)
    (line : String) : writes (r.act s (.begin id (.send line))).trace = [] := by
  change writes (Turn.begin { room := r } s id (.send line)).trace = []
  cases hl : r.latch with
  | none => simp [Room.gate, hl] at held
  | some n =>
    have hn : (r.latchAt n).isHeld := gate_eq hl ▸ held
    have hk : r.knock.latchAt n = r.latchAt n := by simp [Room.knock, Room.latchAt, hl]
    have closed : (r.latchAt n).isOpen = false := by simp [Latch.isOpen, hn]
    simp only [Turn.begin, hl, hn, if_true, Turn.approach, Room.latchNumber, Option.getD_some,
      Turn.say, hk, closed, Bool.false_eq_true, if_false]
    rfl

/-- A line that begins while nobody holds the latch is delivered. -/
theorem Room.begin_send_of_free {r : Room} (free : r.gate.isHeld = false) (s : Setting)
    (id : CallId) (line : String) :
    r.act s (.begin id (.send line)) = Turn.deliver { room := r } id line := by
  change Turn.begin { room := r } s id (.send line) = _
  cases hl : r.latch with
  | none => simp only [Turn.begin, hl]
  | some n =>
    have hn : (r.latchAt n).isHeld = false := gate_eq hl ▸ free
    simp only [Turn.begin, hl, hn, Bool.false_eq_true, if_false]

/-- It does not wait at the latch. -/
theorem Room.waiting_begin_of_free {r : Room} (free : r.gate.isHeld = false) (s : Setting)
    (id : CallId) (line : String) :
    (r.act s (.begin id (.send line))).room.waiting = r.waiting := by
  rw [Room.begin_send_of_free free]
  unfold Turn.deliver
  simp only
  split
  · rfl
  · split
    · rfl
    · split
      · rfl
      · rfl
      · exact Turn.waiting_block _ id line

theorem calls_append (xs ys : List Deed) : calls (xs ++ ys) = calls xs ++ calls ys :=
  List.filterMap_append

theorem writes_log_append (xs ys : List Deed) :
    writes (log (xs ++ ys)) = writes (log xs) ++ writes (log ys) := by
  rw [log, List.flatMap_append, writes_append]
  rfl

/-- Every piece was written by something that was done. -/
theorem exists_deed {ds : List Deed} {w : Write} (h : w ∈ writes (log ds)) :
    ∃ later d earlier, ds = later ++ d :: earlier ∧ w ∈ writes d.turn.trace := by
  induction ds with
  | nil => cases h
  | cons e ds ih =>
    rw [Course.writes_log_cons] at h
    rcases List.mem_append.mp h with h | h
    · exact ⟨[], e, ds, rfl, h⟩
    · obtain ⟨later, d, earlier, rfl, hw⟩ := ih h
      exact ⟨e :: later, d, earlier, rfl, hw⟩

namespace Course

variable {name : SessionName} {later earlier ds : List Deed} {d : Deed} {r : Room}

/-- What was done before was a course too. -/
theorem back (c : Course name (later ++ d :: earlier) r) : Course name earlier d.room ∧
    d.setting.Sane ∧ (∀ q, d.action.call? = some q → q.1 ∉ (calls earlier).map (·.1)) ∧
    d.action.Fits d.room := by
  induction later generalizing r with
  | nil =>
    cases c with
    | act c s sane a call birth => exact ⟨c, sane, call, c.fits call birth⟩
  | cons e later ih =>
    cases c with
    | act c s sane a call birth => exact ih c

/-- Calls wait in the order in which they began. -/
theorem waiting_sublist (c : Course name ds r) :
    (r.waiting.map (·.id)).Sublist ((calls ds).map (·.1)).reverse := by
  induction c with
  | start => exact .refl _
  | act c s sane a call birth ih =>
    rename_i ds r
    have hw := c.sound.waiting_act sane (c.fits call birth)
    have hc : ((calls (⟨r, s, a⟩ :: ds)).map (·.1)).reverse =
        ((calls ds).map (·.1)).reverse ++ (a.call?.map (·.1)).toList := by
      rw [calls_cons]
      cases a.call? <;> simp
    rw [hc]
    exact hw.trans (ih.append (.refl _))

/-- A call that has begun and does not wait any more writes nothing from then on. -/
theorem silent_after {q : Room} (c : Course name (later ++ earlier) r) (k : Course name earlier q)
    {id : CallId} (begun : id ∈ (calls earlier).map (·.1)) (out : id ∉ q.waiting.map (·.id)) :
    id ∉ r.waiting.map (·.id) ∧ id ∉ (writes (log later)).map (·.call) := by
  induction later generalizing r with
  | nil =>
    have same : r = q := by
      cases c <;> cases k <;> rfl
    exact ⟨same ▸ out, List.not_mem_nil⟩
  | cons e later ih =>
    cases c with
    | act c s sane a call birth =>
      rename_i r
      obtain ⟨out, quiet⟩ := ih c
      have fits := c.fits call birth
      have old : ∀ x, a.call? = some x → x.1 ≠ id := by
        rintro x hx rfl
        apply call x hx
        change x.1 ∈ (calls (later ++ earlier)).map (·.1)
        rw [calls_append, List.map_append]
        exact List.mem_append_right _ begun
      refine ⟨?_, ?_⟩
      · intro hm
        rcases List.mem_append.mp ((c.sound.waiting_act sane fits).subset hm) with hm | hm
        · exact out hm
        · obtain ⟨x, hx, he⟩ := Option.map_eq_some_iff.mp (Option.mem_toList.mp hm)
          exact old x hx he
      · rw [writes_log_cons, List.map_append, List.mem_append]
        rintro (hm | hm)
        · obtain ⟨w, hw, rfl⟩ := List.mem_map.mp hm
          obtain ⟨_, _, line, hl, _⟩ := c.sound.written sane fits hw
          rcases hl with hl | ⟨x, hx, _, he⟩
          · exact old _ hl rfl
          · exact out (List.mem_map.mpr ⟨x, hx, (Prod.mk.inj he).1⟩)
        · exact quiet hm

/-! ## Which process a line goes to -/

/-- Processes are only added to the room, and last. -/
theorem pids_prefix {r : Room} (c : Course name ds r) {s : Setting} (sane : s.Sane) {a : Action}
    (fits : a.Fits r) : r.pids <+: (r.act s a).room.pids := by
  refine c.sound.act_handles (P := fun q => r.pids <+: q.pids) sane fits ?_ (List.prefix_refl _)
  intro f t u h k
  cases h with
  | drift h => exact h.pids ▸ k
  | pop v pid focus recorded eq =>
    have same : (t.pop pid).room.pids = t.room.pids := Room.pids_setChild _ _
    rw [eq, same]
    exact k
  | adopt v dir b focus fresh eq =>
    rw [eq, Room.pids_adopt]
    exact k.trans (List.prefix_append _ _)
  | same children recorded => exact (Room.pids_congr children) ▸ k

/-- What was written later went to the same process or to one that was created later. -/
theorem pids_of_sublist (c : Course name ds r) :
    (∀ w ∈ writes (log ds), w.pid ∈ r.pids) ∧
    ∀ {v w : Write}, [w, v].Sublist (writes (log ds)) →
      v.pid = w.pid ∨ [v.pid, w.pid].Sublist r.pids := by
  induction c with
  | start => exact ⟨(fun _ h => nomatch h), fun h => nomatch h⟩
  | act c s sane a call birth ih =>
    rename_i ds r
    have fits := c.fits call birth
    have grows := (c.pids_prefix sane fits).sublist
    have last : ∀ w ∈ writes (r.act s a).trace, r.pids.getLast? = some w.pid := by
      intro w hw
      exact c.recent.last _ (c.sound.written sane fits hw).1.recorded
    refine ⟨?_, ?_⟩
    · intro w hw
      rw [writes_log_cons] at hw
      rcases List.mem_append.mp hw with hw | hw
      · exact grows.subset (List.mem_of_getLast? (last w hw))
      · exact grows.subset (ih.1 w hw)
    · intro v w hs
      rw [writes_log_cons] at hs
      rcases pair_of_append hs with hs | ⟨hw, hv⟩ | hs
      · have hw := last w (hs.subset (by simp))
        have hv := last v (hs.subset (by simp))
        exact .inl (Option.some.inj (hv.symm.trans hw))
      · by_cases same : v.pid = w.pid
        · exact .inl same
        · exact .inr ((pair_sublist_getLast (ih.1 v hv) (last w hw) same).trans grows)
      · exact (ih.2 hs).imp id (·.trans grows)

/-! ## Overtaking -/

/-- What began before another call, and has begun when that has, began before it then too. -/
theorem began_before {xs ys : List Deed} {a b : CallId}
    (nodup : ((calls (xs ++ ys)).map (·.1)).Nodup)
    (h : [b, a].Sublist ((calls (xs ++ ys)).map (·.1))) (hb : b ∈ (calls ys).map (·.1)) :
    [b, a].Sublist ((calls ys).map (·.1)) := by
  rw [calls_append, List.map_append] at nodup h
  have apart := (List.nodup_append.mp nodup).2.2
  rcases pair_of_append h with h | ⟨h, _⟩ | h
  · exact absurd rfl (apart b (h.subset (by simp)) b hb)
  · exact absurd rfl (apart b h b hb)
  · exact h

/-- Whoever has leave to enter began before all others that wait. -/
theorem not_waiting_of_woken (c : Course name ds r) {x : Caller} (mem : x ∈ r.waiting)
    (woken : x.wake = .woken) {id : CallId}
    (before : [x.id, id].Sublist ((calls ds).map (·.1))) : id ∉ r.waiting.map (·.id) := by
  obtain ⟨hm, hp⟩ := Room.mem_waiting.mp mem
  have order : [id, x.id].Sublist ((calls ds).map (·.1)).reverse := by
    simpa using before.reverse
  have nodup := List.nodup_reverse.mpr c.nodup_calls
  have waiting := c.waiting_sublist
  rw [c.sound.waiting_of_woken hm hp woken] at waiting ⊢
  intro hid
  rcases List.mem_cons.mp hid with rfl | hid
  · exact not_sublist_of_sublist nodup order order
  · have front := (List.singleton_sublist.mpr hid).cons_cons x.id
    exact not_sublist_of_sublist nodup order (front.trans waiting)

/-- A call begins once. -/
theorem deed_unique (c : Course name (later ++ d :: earlier) r) {e : Deed} {xs ys : List Deed}
    (same : later ++ d :: earlier = xs ++ e :: ys) {id : CallId} {p q : Request}
    (hd : d.action.call? = some (id, p)) (he : e.action.call? = some (id, q)) :
    d = e ∧ earlier = ys := by
  induction later generalizing xs r with
  | nil =>
    cases xs with
    | nil => exact List.cons.inj same
    | cons x xs =>
      obtain ⟨rfl, rfl⟩ := List.cons.inj same
      refine absurd (List.mem_map.mpr ⟨(id, q), ?_, rfl⟩) (c.back.2.2.1 (id, p) hd)
      exact List.mem_filterMap.mpr ⟨e, by simp, he⟩
  | cons y later ih =>
    cases xs with
    | nil =>
      obtain ⟨rfl, rfl⟩ := List.cons.inj same
      have c : Course name ([] ++ y :: (later ++ d :: earlier)) r := c
      refine absurd (List.mem_map.mpr ⟨(id, p), ?_, rfl⟩) (c.back.2.2.1 (id, q) he)
      exact List.mem_filterMap.mpr ⟨d, by simp, hd⟩
    | cons x xs =>
      cases c with
      | act c s sane a call birth => exact ih c (List.cons.inj same).2

end Course

/-- A line that begins now is written without regard to the given call, which waits. -/
structure Room.LetsPass (r : Room) (id : CallId) : Prop where
  free : r.gate.isHeld = false
  waits : id ∈ r.waiting.map (·.id)

/-- Neither is the second written before the first to the process of both, nor is the first written
to a process that was created after that of the second. -/
structure InOrder (pids : List Pid) (ws : List Write) (first second : Write) : Prop where
  same : first.pid = second.pid →
    [first, second].Sublist (ws.reverse.filter (·.pid = first.pid))
  later : ¬ [second.pid, first.pid].Sublist pids

namespace Course

variable {name : SessionName} {later earlier ds : List Deed} {d : Deed} {r : Room}

section Pair

variable {first second : Write} {line : String}

/-- A line that overtakes nobody is written after those that began before it. -/
theorem sublist_of_not_letsPass (c : Course name (later ++ d :: earlier) r)
    (hf : first ∈ writes (log (later ++ d :: earlier)))
    (hs : second ∈ writes (log (later ++ d :: earlier)))
    (before : first.call ∈ (calls earlier).map (·.1))
    (begins : d.action = .begin second.call (.send line)) (h : ¬ d.room.LetsPass first.call) :
    [second, first].Sublist (writes (log (later ++ d :: earlier))) := by
  have hc : d.action.call? = some (second.call, .send line) := by rw [begins]; rfl
  have order : [second.call, first.call].Sublist ((calls (later ++ d :: earlier)).map (·.1)) := by
    rw [calls_append, calls_cons, hc, List.map_append, List.map_append]
    exact List.sublist_append_of_sublist_right
      (pair_sublist_append (List.mem_singleton_self _) before)
  obtain ⟨xs, e, ys, he, hw⟩ := exists_deed hs
  obtain ⟨k, sane, _, fits⟩ := (he ▸ c).back
  -- The first has begun when the second is written, and it does not wait then.
  have settled : first.call ∈ (calls ys).map (·.1) ∧ first.call ∉ e.room.waiting.map (·.id) := by
    obtain ⟨_, _, l, hl, _⟩ := k.sound.written sane fits hw
    rcases hl with hl | ⟨x, hx, woken, hx'⟩
    · obtain ⟨rfl, rfl⟩ := c.deed_unique he hc hl
      refine ⟨before, fun waits => h ⟨?_, waits⟩⟩
      by_contra held
      have held : d.room.gate.isHeld := by simpa using held
      have quiet := Room.writes_begin_of_held held d.setting second.call line
      rw [← begins] at quiet
      change second ∈ writes (d.room.act d.setting d.action).trace at hw
      rw [quiet] at hw
      cases hw
    · have hid : x.id = second.call := (Prod.mk.inj hx').1
      have begun : second.call ∈ (calls ys).map (·.1) :=
        List.mem_map.mpr ⟨_, k.has_call (Room.mem_waiting.mp hx).1, hid⟩
      have nodup := c.nodup_calls
      have split : later ++ d :: earlier = (xs ++ [e]) ++ ys := by rw [he]; simp
      rw [split] at order nodup
      have order := began_before nodup order begun
      exact ⟨order.subset (by simp), k.not_waiting_of_woken hx woken (hid ▸ order)⟩
  have split : later ++ d :: earlier = (xs ++ [e]) ++ ys := by rw [he]; simp
  have quiet := ((split ▸ c).silent_after k settled.1 settled.2).2
  rw [split, writes_log_append] at hf ⊢
  rcases List.mem_append.mp hf with hf | hf
  · exact absurd (List.mem_map_of_mem hf) quiet
  · refine pair_sublist_append ?_ hf
    rw [writes_log_append, List.mem_append, writes_log_cons, List.mem_append]
    exact .inr (.inl hw)

/-- A line that overtakes another is written before it. -/
theorem sublist_of_letsPass (c : Course name (later ++ d :: earlier) r)
    (hf : first ∈ writes (log (later ++ d :: earlier)))
    (hs : second ∈ writes (log (later ++ d :: earlier)))
    (begins : d.action = .begin second.call (.send line)) (h : d.room.LetsPass first.call) :
    [first, second].Sublist (writes (log (later ++ d :: earlier))) := by
  have hc : d.action.call? = some (second.call, .send line) := by rw [begins]; rfl
  obtain ⟨k, sane, call, fits⟩ := c.back
  have now : Course name (d :: earlier) d.turn.room :=
    .act k d.setting sane d.action call fits.birth
  have waiting : d.turn.room.waiting = d.room.waiting := by
    change (d.room.act d.setting d.action).room.waiting = _
    rw [begins]
    exact Room.waiting_begin_of_free h.free _ _ _
  have unwritten : first ∉ writes (log (d :: earlier)) := by
    intro hm
    obtain ⟨x, hx, hid⟩ := List.mem_map.mp (waiting ▸ h.waits)
    obtain ⟨mem, phase⟩ := Room.mem_waiting.mp hx
    have draining := (now.lined.callers x.place (Room.place_mem mem)).mpr
      (List.mem_map.mpr ⟨first, hm, hid.symm⟩)
    rw [Caller.place_phase, phase] at draining
    cases draining
  have out : second.call ∉ d.turn.room.waiting.map (·.id) := by
    rw [waiting]
    intro hm
    obtain ⟨x, hx, hid⟩ := List.mem_map.mp hm
    exact fits.call _ hc (List.mem_map.mpr ⟨x, (Room.mem_waiting.mp hx).1, hid⟩)
  have begun : second.call ∈ (calls (d :: earlier)).map (·.1) :=
    List.mem_map.mpr ⟨_, mem_calls_cons.mpr (.inl hc), rfl⟩
  have quiet := (c.silent_after now begun out).2
  rw [writes_log_append] at hf hs ⊢
  refine pair_sublist_append ?_ ?_
  · exact (List.mem_append.mp hf).resolve_right unwritten
  · exact (List.mem_append.mp hs).resolve_left fun hm => quiet (List.mem_map_of_mem hm)

end Pair

end Course

/-- Lines that are written one after the other, to processes that were created in this order, are in
order. -/
theorem InOrder.of_sublist {pids : List Pid} {ws : List Write} {first second : Write}
    (nodup : pids.Nodup) (straight : [second, first].Sublist ws)
    (order : first.pid = second.pid ∨ [first.pid, second.pid].Sublist pids) :
    InOrder pids ws first second := by
  refine ⟨?_, ?_⟩
  · intro same
    have kept := straight.reverse.filter (·.pid = first.pid)
    simpa [same] using kept
  · intro turned
    rcases order with same | order
    · rw [same] at turned
      exact not_sublist_of_sublist nodup turned turned
    · exact not_sublist_of_sublist nodup order turned

/-- Where the second line is written first, the two are not in order. -/
theorem InOrder.not_of_sublist {pids : List Pid} {ws : List Write} {first second : Write}
    (nodup : ws.Nodup) (turned : [first, second].Sublist ws)
    (order : second.pid = first.pid ∨ [second.pid, first.pid].Sublist pids) :
    ¬ InOrder pids ws first second := by
  intro h
  rcases order with same | order
  · have straight := (h.same same.symm).trans List.filter_sublist
    exact not_sublist_of_sublist nodup turned (by simpa using straight.reverse)
  · exact h.later order

end ToolHost.Session

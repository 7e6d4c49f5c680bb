import Mathlib
import ToolHost.Proofs.Session.Lines

/-!
# What becomes of a line

Over the whole course of a room: every piece that was written is the line of a call of its own, a
call that returned without an error has written its line, and one that found nothing to write to
has not and never will. No piece goes to a process whose session has been stopped.
-/
namespace ToolHost.Session

theorem Lined.atRest {f : Focus} {t : Turn} {ws : List Write} (h : Lined f t ws) :
    Lined .idle { room := t.room } ws where
  once := h.once
  callers := h.callers
  self _ hid := nomatch hid
  good _ he := nomatch he
  gone _ _ hr := nomatch hr
  answered _ _ _ hq := nomatch hq

/-- Only calls that waited before, or begin, are among those that wait. -/
theorem Sound.mem_ids_act {r : Room} (h : Sound .idle r) {s : Setting} (sane : s.Sane) {a : Action}
    (fits : a.Fits r) {id : CallId} (mem : id ∈ (r.act s a).room.ids) :
    id ∈ r.ids ∨ ∃ q, a.call? = some (id, q) := by
  let K (q : CallId × Request) : Prop := q.1 ∈ r.ids ∨ ∃ x, a.call? = some (q.1, x)
  have start : Houses r.name K .idle r := by
    refine ⟨rfl, (fun _ e => nomatch e), ?_⟩
    intro c hc
    change _ ∨ _
    rw [Room.ids_eq]
    exact .inl (List.mem_map_of_mem hc)
  have hk := start.act h sane fits fun q hq => .inr ⟨q.2, hq⟩
  rw [Room.ids_eq] at mem
  obtain ⟨c, hc, rfl⟩ := List.mem_map.mp mem
  exact hk.callers c hc

theorem Room.Targets.live? {r : Room} {pid : Pid} (h : r.Targets pid) :
    r.live? = some (r.session pid) := by
  simp [Room.live?, h.recorded, h.live]

/-- A line that waits to be taken does not fail when it goes on by itself. -/
theorem Sound.of_resume_failed {r : Room} (h : Sound .idle r) {s : Setting} {id i : CallId}
    {x : Trouble} (returned : (r.act s (.resume id)).returned = some (i, .failed x)) :
    ∃ c ∈ r.callers, c.id = id ∧ c.phase ≠ .draining := by
  change (Turn.resume { room := r } s id).returned = _ at returned
  unfold Turn.resume at returned
  cases hc : r.caller? id with
  | none =>
    simp only [hc] at returned
    cases returned
  | some c =>
    refine ⟨c, Room.mem_of_caller? hc, Room.id_of_caller? hc, ?_⟩
    intro hp
    have hl := (h.placed.suits (Room.mem_of_caller? hc)).latch.mpr hp
    simp only [hc, hl, hp] at returned
    cases hw : c.wake <;> simp only [hw] at returned <;> cases returned

theorem Room.of_launched_returned {r : Room} {s : Setting} {id i : CallId}
    {o : Except SpawnFault Birth} {e : Ending}
    (returned : (r.act s (.launched id o)).returned = some (i, e)) :
    ∃ c ∈ r.callers, c.id = id ∧ c.phase ≠ .draining := by
  change (Turn.launched { room := r } s id o).returned = _ at returned
  unfold Turn.launched at returned
  cases hc : r.caller? id with
  | none =>
    simp only [hc] at returned
    cases returned
  | some c =>
    refine ⟨c, Room.mem_of_caller? hc, Room.id_of_caller? hc, ?_⟩
    intro hp
    obtain ⟨_, _, _, _, _⟩ := c
    cases hp
    simp only [hc] at returned
    cases returned

namespace Course

variable {name : SessionName} {ds : List Deed} {r : Room}

theorem writes_log_cons (d : Deed) (ds : List Deed) :
    writes (log (d :: ds)) = writes d.turn.trace ++ writes (log ds) := writes_append _ _

/-- Every piece that was written is the line of a call that has begun. -/
theorem known (c : Course name ds r) :
    ∀ w ∈ writes (log ds), ∃ line, (w.call, .send line) ∈ calls ds ∧ w.piece = pieceOf line := by
  induction c with
  | start => exact fun _ h => nomatch h
  | act c s sane a call birth ih =>
    intro w hw
    rw [writes_log_cons] at hw
    rcases List.mem_append.mp hw with hw | hw
    · obtain ⟨_, _, line, hl, hp⟩ := c.sound.written sane (c.fits call birth) hw
      refine ⟨line, mem_calls_cons.mpr ?_, hp⟩
      rcases hl with hl | ⟨x, hx, _, he⟩
      · exact .inl hl
      · rw [← he]
        exact .inr (c.has_call (Room.mem_waiting.mp hx).1)
    · obtain ⟨line, hl, hp⟩ := ih w hw
      exact ⟨line, mem_calls_cons.mpr (.inr hl), hp⟩

/-- Whoever has written has begun. -/
theorem begun (c : Course name ds r) {id : CallId} (h : id ∈ (writes (log ds)).map (·.call)) :
    ∃ line, (id, .send line) ∈ calls ds := by
  obtain ⟨w, hw, rfl⟩ := List.mem_map.mp h
  obtain ⟨line, hl, _⟩ := c.known w hw
  exact ⟨line, hl⟩

/-- One more step, and how it leaves those who wrote and those who did not. -/
theorem act_lined (c : Course name ds r) {s : Setting} (sane : s.Sane) {a : Action}
    (call : ∀ q, a.call? = some q → q.1 ∉ (calls ds).map (·.1))
    (birth : ∀ b, a.birth? = some b → b.pid ∉ r.pids)
    (h : Lined .idle { room := r } (writes (log ds))) :
    ∃ f, f.IsOver a.subject? ∧ Replied f (r.act s a) ∧
      Houses name (Has (⟨r, s, a⟩ :: ds)) f (r.act s a).room ∧
      Lined f (r.act s a) (writes (r.act s a).trace ++ writes (log ds)) := by
  have fits := c.fits call birth
  have lined : Lined a.focus { room := r } (writes (log ds)) := by
    refine ⟨h.once, h.callers, ?_, ?_, h.gone, ?_⟩
    · intro id hid
      cases a with
      | begin i request =>
        cases hid
        refine iff_of_false (fun e => e) ?_
        intro hm
        obtain ⟨line, hl⟩ := c.begun hm
        exact call _ rfl (List.mem_map.mpr ⟨_, hl, rfl⟩)
      | _ => cases hid
    · cases a <;> exact fun _ e => nomatch e
    · cases a <;> exact fun _ _ _ e => nomatch e
  refine c.sound.act_yields sane fits
    (P := fun f t => Replied f t ∧ Houses name (Has (⟨r, s, a⟩ :: ds)) f t.room ∧
      Lined f t (writes t.trace ++ writes (log ds)))
    (fun m hm hk => ⟨m.replied hm hk.1, m.houses hm hk.2.1, m.lined hm hk.1 hk.2.2⟩)
    ?_ ⟨.begins r a, c.houses_focus s a, lined⟩
  rintro u hs ⟨hr, hh, hl⟩
  refine ⟨hr.spare hs, hh.keep hs.name hs.places rfl, ?_⟩
  rw [hs.trace]
  exact hl.keep hs.places hs.returned rfl .rfl (fun _ e => nomatch e) rfl

theorem lined (c : Course name ds r) : Lined .idle { room := r } (writes (log ds)) := by
  induction c with
  | start =>
    exact ⟨.nil, (fun _ h => nomatch h), (fun _ h => nomatch h), (fun _ h => nomatch h),
      (fun _ _ h => nomatch h), (fun _ _ _ h => nomatch h)⟩
  | act c s sane a call birth ih =>
    obtain ⟨f, _, _, _, hl⟩ := c.act_lined sane call birth ih
    rw [writes_log_cons]
    exact hl.atRest

/-- However a call has ended, it has ended fairly. -/
theorem fair (c : Course name ds r) {d : Deed} (hd : d ∈ ds) {id : CallId} {e : Ending}
    (returned : d.turn.returned = some (id, e)) :
    ∃ q, (id, q) ∈ calls ds ∧ e.Fair d.turn.room q := by
  induction c with
  | start => cases hd
  | act c s sane a call birth ih =>
    rcases List.mem_cons.mp hd with rfl | hd
    · obtain ⟨f, _, hr, hh, _⟩ := c.act_lined sane call birth c.lined
      obtain ⟨q, rfl, he⟩ := hr.given id e returned
      exact ⟨q, hh.focus _ rfl, he⟩
    · obtain ⟨q, hq, he⟩ := ih hd
      exact ⟨q, mem_calls_cons.mpr (.inr hq), he⟩

/-- A call that has ended has begun, and it waits no more. -/
theorem gone (c : Course name ds r) {d : Deed} (hd : d ∈ ds) {id : CallId} {e : Ending}
    (returned : d.turn.returned = some (id, e)) : id ∉ r.ids ∧ ∃ q, (id, q) ∈ calls ds := by
  induction c with
  | start => cases hd
  | act c s sane a call birth ih =>
    rename_i ds r
    rcases List.mem_cons.mp hd with rfl | hd
    · obtain ⟨f, _, hr, hh, hl⟩ := c.act_lined sane call birth c.lined
      obtain ⟨q, rfl, _⟩ := hr.given id e returned
      exact ⟨hl.gone id e returned, q, hh.focus _ rfl⟩
    · obtain ⟨out, q, hq⟩ := ih hd
      refine ⟨?_, q, mem_calls_cons.mpr (.inr hq)⟩
      intro hm
      rcases c.sound.mem_ids_act sane (c.fits call birth) hm with hm | ⟨x, hx⟩
      · exact out hm
      · exact call _ hx (List.mem_map.mpr ⟨_, hq, rfl⟩)

/-- A call that returned without an error has written its line. -/
theorem answered (c : Course name ds r) {d : Deed} (hd : d ∈ ds) {id : CallId} {e : Ending}
    (returned : d.turn.returned = some (id, e)) (good : e.isGood) {line : String}
    (sent : (id, .send line) ∈ calls ds) :
    ∃ w ∈ writes (log ds), w.call = id ∧ w.piece = pieceOf line := by
  have some_write : id ∈ (writes (log ds)).map (·.call) := by
    induction c with
    | start => cases hd
    | act c s sane a call birth ih =>
      rename_i ds r
      rw [writes_log_cons]
      rcases List.mem_cons.mp hd with rfl | hd
      · obtain ⟨f, _, hr, hh, hl⟩ := c.act_lined sane call birth c.lined
        obtain ⟨q, rfl, _⟩ := hr.given id e returned
        have hq : q = .send line :=
          (Course.act c s sane a call birth).request_unique (hh.focus _ rfl) sent
        exact hl.answered id q e rfl returned good (by rw [hq]; rfl)
      · have begun : (id, .send line) ∈ calls ds := by
          obtain ⟨_, q, hq⟩ := c.gone hd returned
          rcases mem_calls_cons.mp sent with hs | hs
          · exact absurd (List.mem_map.mpr ⟨_, hq, rfl⟩) (call (id, .send line) hs)
          · exact hs
        rw [List.map_append]
        exact List.mem_append_right _ (ih hd begun)
  obtain ⟨w, hw, rfl⟩ := List.mem_map.mp some_write
  obtain ⟨l, hl, hp⟩ := c.known w hw
  have := c.request_unique hl sent
  cases this
  exact ⟨w, hw, rfl, hp⟩

/-- What is written goes to the process that is recorded and live just then. -/
theorem targets (c : Course name ds r) {d : Deed} (hd : d ∈ ds) {w : Write}
    (hw : w ∈ writes d.turn.trace) : d.room.Targets w.pid ∧ d.turn.room.Targets w.pid := by
  induction c with
  | start => cases hd
  | act c s sane a call birth ih =>
    rcases List.mem_cons.mp hd with rfl | hd
    · obtain ⟨before, after, _⟩ := c.sound.written sane (c.fits call birth) hw
      exact ⟨before, after⟩
    · exact ih hd

/-- A line that fails where no session is live, and not for want of being taken, is not written
and never was. -/
theorem silent (c : Course name ds r) {d : Deed} (hd : d ∈ ds) {id : CallId} {x : Trouble}
    (returned : d.turn.returned = some (id, .failed x)) (dead : d.room.live? = none)
    (untaken : ∀ b, d.action ≠ .drained id b) : id ∉ (writes (log ds)).map (·.call) := by
  induction c with
  | start => cases hd
  | act c s sane a call birth ih =>
    rename_i ds r
    rw [writes_log_cons, List.map_append, List.mem_append]
    rcases List.mem_cons.mp hd with rfl | hd
    · have quiet : writes (r.act s a).trace = [] := by
        rw [List.eq_nil_iff_forall_not_mem]
        intro w hw
        have ht := (c.sound.written sane (c.fits call birth) hw).1
        rw [ht.live?] at dead
        cases dead
      rintro (hm | hm)
      · change id ∈ (writes (r.act s a).trace).map (·.call) at hm
        rw [quiet] at hm
        cases hm
      · have subject := c.sound.subject_of_returned sane (c.fits call birth) returned
        cases a with
        | begin i q =>
          cases subject
          obtain ⟨line, hl⟩ := c.begun hm
          exact call _ rfl (List.mem_map.mpr ⟨_, hl, rfl⟩)
        | resume i =>
          cases subject
          obtain ⟨k, mem, rfl, hp⟩ := c.sound.of_resume_failed returned
          exact hp ((c.lined.callers k.place (Room.place_mem mem)).mpr hm)
        | launched i o =>
          cases subject
          obtain ⟨k, mem, rfl, hp⟩ := Room.of_launched_returned returned
          exact hp ((c.lined.callers k.place (Room.place_mem mem)).mpr hm)
        | drained i b =>
          cases subject
          exact untaken b rfl
        | _ => cases subject
    · rintro (hm | hm)
      · obtain ⟨w, hw, he⟩ := List.mem_map.mp hm
        obtain ⟨out, q, hq⟩ := c.gone hd returned
        obtain ⟨_, _, line, hl, _⟩ := c.sound.written sane (c.fits call birth) hw
        rcases hl with hl | ⟨k, hk, _, hk'⟩
        · exact call _ hl (List.mem_map.mpr ⟨_, hq, he.symm⟩)
        · refine out (List.mem_map.mpr ⟨k, (Room.mem_waiting.mp hk).1, ?_⟩)
          exact (Prod.mk.inj hk').1.trans he
      · exact ih hd hm

end Course

end ToolHost.Session

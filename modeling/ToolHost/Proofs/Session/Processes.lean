import Mathlib
import ToolHost.Proofs.Session.Course

/-!
# The processes of a name

The recorded process is the one that was created last, and its session has not been stopped. As
long as nobody gives up, a process runs, and its relay goes on, only if it is recorded or if the
call inside the latch has taken its record away and is about to see them end; so no two processes
of a name run, and no two relays go on.
-/
namespace ToolHost.Session

/-! ## The record -/

/-- How a small step changes the record and the processes. -/
inductive Handles (f : Focus) (t u : Turn) : Prop
  | drift (h : Drift t u)
  | pop (v : Visit) (pid : Pid) (focus : f = .inside v .entered)
      (recorded : t.room.recorded = some pid) (eq : u = t.pop pid)
  | adopt (v : Visit) (dir : Machine.Path) (b : Birth) (focus : f = .inside v .vacant)
      (fresh : b.pid ∉ t.room.pids) (eq : u = { t with room := t.room.adopt dir b })
  | same (children : u.room.children = t.room.children)
      (recorded : u.room.recorded = t.room.recorded)

theorem Move.handles {f g : Focus} {t u : Turn} (m : Move f t g u) (s : Sound f t.room) :
    Handles f t u := by
  cases m with
  | drift h _ => exact .drift h
  | pop line recorded => exact .pop _ _ rfl recorded rfl
  | adopt dir b fresh => exact .adopt _ dir b rfl fresh rfl
  | retreat mem latch phase wake eq =>
    subst eq
    split
    · exact .same rfl rfl
    · exact .same (Turn.children_invite _ _ _) (Turn.recorded_invite _ _ _)
  | release => exact .same (Turn.children_invite _ _ _) (Turn.recorded_invite _ _ _)
  | stumble lacks => exact absurd lacks s.counted.sound
  | _ => exact .same rfl rfl

structure Recent (r : Room) : Prop where
  nodup : r.pids.Nodup
  last : ∀ pid, r.recorded = some pid → r.pids.getLast? = some pid
  unstopped : ∀ pid, r.recorded = some pid → (r.child pid).isStopped = false

namespace Room

theorem runs_congr {r q : Room} (h : q.children = r.children) (pid : Pid) :
    q.Runs pid ↔ r.Runs pid := by
  unfold Runs child?
  rw [h]

@[simp] theorem pids_adopt (r : Room) (dir : Machine.Path) (b : Birth) :
    (r.adopt dir b).pids = r.pids ++ [b.pid] := by simp [pids, adopt]

theorem child_adopt {r : Room} {dir : Machine.Path} {b : Birth} (fresh : b.pid ∉ r.pids)
    (pid : Pid) :
    (r.adopt dir b).child pid =
      if pid = b.pid then { pid := b.pid, dir, traits := b.traits } else r.child pid := by
  rw [child, child?_adopt r dir b pid fresh]
  split <;> rfl

/-- A process is taken from the record; it goes on if it runs. -/
theorem runs_pop (t : Turn) (pid p : Pid) : (t.pop pid).room.Runs p ↔ t.room.Runs p := by
  have code : ((t.pop pid).room.child p).code = (t.room.child p).code := by
    rw [Turn.child_pop]
    split <;> rfl
  rw [runs_iff, runs_iff, Turn.pids_pop, code]

theorem runs_adopt {r : Room} {dir : Machine.Path} {b : Birth} (fresh : b.pid ∉ r.pids)
    {p : Pid} (h : (r.adopt dir b).Runs p) : p = b.pid ∨ r.Runs p := by
  obtain ⟨c, hc, hn⟩ := h
  rw [child?_adopt r dir b p fresh] at hc
  split at hc
  · rename_i e
    exact .inl e
  · exact .inr ⟨c, hc, hn⟩

theorem relays_adopt {r : Room} {dir : Machine.Path} {b : Birth} (fresh : b.pid ∉ r.pids)
    {p : Pid} (h : (r.adopt dir b).Relays p) : p = b.pid ∨ r.Relays p := by
  obtain ⟨c, hc, hn⟩ := h
  rw [child?_adopt r dir b p fresh] at hc
  split at hc
  · rename_i e
    exact .inl e
  · exact .inr ⟨c, hc, hn⟩

/-- A process runs, or its relay goes on. -/
def Works (r : Room) (p : Pid) : Prop := r.Runs p ∨ r.Relays p

theorem works_pop (t : Turn) (pid p : Pid) : (t.pop pid).room.Works p ↔ t.room.Works p :=
  or_congr (runs_pop t pid p) (relays_pop t pid p)

theorem works_adopt {r : Room} {dir : Machine.Path} {b : Birth} (fresh : b.pid ∉ r.pids)
    {p : Pid} (h : (r.adopt dir b).Works p) : p = b.pid ∨ r.Works p := by
  rcases h with h | h
  · exact (runs_adopt fresh h).imp_right .inl
  · exact (relays_adopt fresh h).imp_right .inr

/-- No process comes to run, and no relay to go on. -/
structure Rests (r q : Room) : Prop where
  runs : ∀ p, q.Runs p → r.Runs p
  relays : ∀ p, q.Relays p → r.Relays p

theorem Rests.of_children {r q : Room} (h : q.children = r.children) : r.Rests q :=
  ⟨fun p => (runs_congr h p).mp, fun p => (relays_congr h p).mp⟩

theorem Rests.works {r q : Room} (h : r.Rests q) {p : Pid} (hp : q.Works p) : r.Works p :=
  hp.imp (h.runs p) (h.relays p)

theorem Rests.of_drift {t u : Turn} (d : Drift t u) : t.room.Rests u.room :=
  ⟨fun _ => d.runs, fun _ => d.relays⟩

end Room

theorem Handles.recent {f : Focus} {t u : Turn} (h : Handles f t u) (k : Recent t.room) :
    Recent u.room := by
  cases h with
  | drift h =>
    refine ⟨h.pids ▸ k.nodup, ?_, ?_⟩
    · intro pid hp
      rw [h.pids]
      exact k.last pid (h.recorded ▸ hp)
    · intro pid hp
      rw [(h.ages pid).isStopped]
      exact k.unstopped pid (h.recorded ▸ hp)
  | pop v pid focus recorded eq =>
    subst eq
    exact ⟨(Room.pids_setChild { t.room with recorded := none } _).symm ▸ k.nodup, by nofun,
      by nofun⟩
  | adopt v dir b focus fresh eq =>
    subst eq
    refine ⟨?_, ?_, ?_⟩
    · change (t.room.adopt dir b).pids.Nodup
      rw [Room.pids_adopt, List.nodup_append]
      refine ⟨k.nodup, by simp, ?_⟩
      intro x hx y hy e
      rw [List.mem_singleton.mp hy] at e
      exact fresh (e ▸ hx)
    · rintro pid hp
      cases hp
      change (t.room.adopt dir b).pids.getLast? = _
      simp
    · rintro pid hp
      cases hp
      change ((t.room.adopt dir b).child b.pid).isStopped = false
      rw [Room.child_adopt fresh, if_pos rfl]
  | same children recorded =>
    refine ⟨Room.pids_congr children ▸ k.nodup, ?_, ?_⟩
    · intro pid hp
      rw [Room.pids_congr children]
      exact k.last pid (recorded ▸ hp)
    · intro pid hp
      rw [Room.child_congr children]
      exact k.unstopped pid (recorded ▸ hp)

/-- A session that was stopped stays so. -/
theorem Handles.stays_stopped {f : Focus} {t u : Turn} (h : Handles f t u) {pid : Pid}
    (stopped : (t.room.child pid).isStopped) : (u.room.child pid).isStopped := by
  cases h with
  | drift h => rw [(h.ages pid).isStopped]; exact stopped
  | pop v p focus recorded eq =>
    subst eq
    rw [Turn.child_pop]
    split
    · rfl
    · exact stopped
  | adopt v dir b focus fresh eq =>
    subst eq
    change ((t.room.adopt dir b).child pid).isStopped
    rw [Room.child_adopt fresh]
    split
    · rename_i e
      have absent : t.room.child? b.pid = none := by simpa [← Room.child?_isSome] using fresh
      simp [e, Room.child, absent] at stopped
    · exact stopped
  | same children recorded => rw [Room.child_congr children]; exact stopped

/-! ## What runs -/

/-- What a call inside the latch knows of the processes. -/
def Stage.Holds (r : Room) : Stage → Prop
  | .entered | .leaving _ => ∀ p, r.Works p → r.recorded = some p
  | .holding pid => r.recorded = none ∧ ∀ p, r.Works p → p = pid
  | .clearing pid => r.recorded = none ∧ (∀ p, ¬ r.Runs p) ∧ ∀ p, r.Relays p → p = pid
  | .vacant => r.recorded = none ∧ ∀ p, ¬ r.Works p

theorem Stage.Holds.mono {r q : Room} {s : Stage} (h : s.Holds r)
    (recorded : q.recorded = r.recorded) (rests : r.Rests q) : s.Holds q := by
  cases s with
  | entered => exact fun p hp => recorded.trans (h p (rests.works hp))
  | leaving e => exact fun p hp => recorded.trans (h p (rests.works hp))
  | holding pid => exact ⟨recorded.trans h.1, fun p hp => h.2 p (rests.works hp)⟩
  | clearing pid =>
    exact ⟨recorded.trans h.1, fun p hp => h.2.1 p (rests.runs p hp),
      fun p hp => h.2.2 p (rests.relays p hp)⟩
  | vacant => exact ⟨recorded.trans h.1, fun p hp => h.2 p (rests.works hp)⟩

/-- What is known of the processes as long as nobody is told to give up. -/
structure Tidy (f : Focus) (r : Room) : Prop where
  free : r.gate.isHeld = false → ∀ p, r.Works p → r.recorded = some p
  focus : ∀ v s, f = .inside v s → s.Holds r
  stages : ∀ c ∈ r.callers, ∀ s, c.phase.stage? = some s → s.Holds r
  calm : ∀ c ∈ r.callers, c.wake ≠ .interrupted
  reaped : ∀ c ∈ r.callers, ∀ pid, c.phase = .reaping pid → c.wake = .woken → ¬ r.Runs pid

namespace Sound

variable {f : Focus} {r : Room}

/-- While nobody waits inside, no call is at a stage. -/
theorem no_stage (h : Sound f r) (none : r.insiders = 0) {c : Caller} (mem : c ∈ r.callers) :
    c.phase.stage? = .none := h.placed.no_stage none mem

/-- While one call is at work inside, the latch is held and nobody waits inside. -/
theorem alone {v : Visit} {s : Stage} (h : Sound (.inside v s) r) :
    r.gate.isHeld = true ∧ r.insiders = 0 := Latch.Orderly.isHeld_of_inside h.orderly

theorem insiders_of_free (h : Sound f r) (free : r.gate.isHeld = false) : r.insiders = 0 := by
  have hi := h.orderly.inside
  rw [free] at hi
  simp at hi
  omega

/-- While the latch is held and no call is at work inside, one waits there. -/
theorem exists_insider (h : Sound .idle r) (held : r.gate.isHeld = true) :
    ∃ c ∈ r.callers, ∃ n, c.latch = some n ∧ r.latch = some n ∧
      ∃ s, c.phase.stage? = some s := by
  have hi := h.orderly.inside
  rw [held] at hi
  have hi : r.places.countP Caller.isInside = 1 := hi
  obtain ⟨d, hd, hin⟩ := List.countP_pos_iff.mp (hi ▸ Nat.one_pos)
  obtain ⟨c, hc, rfl⟩ := List.mem_map.mp hd
  have hin : c.latch.isSome ∧ c.phase ≠ .queued := by
    change c.isInside = true at hin
    unfold Caller.isInside at hin
    rwa [Bool.and_eq_true, decide_eq_true_eq] at hin
  obtain ⟨n, hn⟩ := Option.isSome_iff_exists.mp hin.1
  refine ⟨c, hc, n, hn, h.counted.same c.place hd n hn, ?_⟩
  have hs := (h.placed.suits hc).latch
  cases hp : c.phase with
  | queued => exact absurd hp hin.2
  | draining => rw [hs.mpr hp] at hn; cases hn
  | _ => exact ⟨_, rfl⟩

end Sound

namespace Tidy

variable {f g : Focus} {r q : Room}

/-- Nobody waits inside. -/
theorem of_stageless (free : r.gate.isHeld = false → ∀ p, r.Works p → r.recorded = some p)
    (focus : ∀ v s, f = .inside v s → s.Holds r)
    (callers : ∀ c ∈ r.callers, c.phase.stage? = none ∧ c.wake ≠ .interrupted) : Tidy f r where
  free := free
  focus := focus
  stages c hc s hs := by
    rw [(callers c hc).1] at hs
    cases hs
  calm c hc := (callers c hc).2
  reaped c hc pid hp := by
    have := (callers c hc).1
    rw [hp] at this
    cases this

/-- No process comes, and of the calls only some are left as they were. -/
theorem keep (h : Tidy f r) (recorded : q.recorded = r.recorded) (rests : r.Rests q)
    (callers : ∀ c ∈ q.callers, c ∈ r.callers)
    (free : q.gate.isHeld = false → ∀ p, q.Works p → q.recorded = some p)
    (focus : ∀ v s, g = .inside v s → s.Holds q) : Tidy g q where
  free := free
  focus := focus
  stages c hc s hs := (h.stages c (callers c hc) s hs).mono recorded rests
  calm c hc := h.calm c (callers c hc)
  reaped c hc pid hp hw hr := h.reaped c (callers c hc) pid hp hw (rests.runs pid hr)

/-- Nothing changes but how far the call under way has come. -/
theorem advance (h : Tidy f r) (focus : ∀ v s, g = .inside v s → s.Holds r) : Tidy g r :=
  h.keep rfl (.of_children rfl) (fun _ => id) h.free focus

/-- The call under way waits, or one does that is not at work inside. -/
theorem add (h : Tidy f r) {c : Caller} (callers : q.callers = r.callers ++ [c])
    (children : q.children = r.children) (recorded : q.recorded = r.recorded)
    (held : q.gate.isHeld = r.gate.isHeld) (stage : ∀ s, c.phase.stage? = some s → s.Holds r)
    (wake : c.wake = .asleep ∨ c.wake = .woken ∧ ∀ pid, c.phase ≠ .reaping pid)
    (out : ∀ v s, g ≠ .inside v s) : Tidy g q := by
  have rests : r.Rests q := .of_children children
  have split {d : Caller} (hd : d ∈ q.callers) : d ∈ r.callers ∨ d = c := by
    rw [callers] at hd
    simpa using hd
  refine ⟨?_, ?_, ?_, ?_, ?_⟩
  · intro hf p hp
    rw [recorded]
    exact h.free (held ▸ hf) p (rests.works hp)
  · exact fun v s e => absurd e (out v s)
  · intro d hd s hs
    rcases split hd with hd | rfl
    · exact (h.stages d hd s hs).mono recorded rests
    · exact (stage s hs).mono recorded rests
  · intro d hd
    rcases split hd with hd | rfl
    · exact h.calm d hd
    · rcases wake with e | ⟨e, _⟩ <;> rw [e] <;> nofun
  · intro d hd pid hp hw hr
    rcases split hd with hd | rfl
    · exact h.reaped d hd pid hp hw (rests.runs pid hr)
    · rcases wake with e | ⟨_, e⟩
      · rw [e] at hw
        cases hw
      · exact e pid hp

/-- What happens on the side. -/
theorem drift {t u : Turn} (h : Tidy f t.room) (d : Drift t u) : Tidy f u.room where
  free hf p hp := by
    rw [Room.gate_congr d.latches d.latch] at hf
    rw [d.recorded]
    exact h.free hf p ((Room.Rests.of_drift d).works hp)
  focus v s e := (h.focus v s e).mono d.recorded (.of_drift d)
  stages c hc s hs := by
    obtain ⟨b, hb, e⟩ := d.exists_mem hc
    have hp : c.phase = b.phase := by rcases e with rfl | ⟨_, rfl, _⟩ <;> rfl
    exact (h.stages b hb s (hp ▸ hs)).mono d.recorded (.of_drift d)
  calm c hc := by
    obtain ⟨b, hb, e⟩ := d.exists_mem hc
    rcases e with rfl | ⟨_, rfl, _⟩
    · exact h.calm c hb
    · nofun
  reaped c hc pid hp hw hr := by
    obtain ⟨b, hb, e⟩ := d.exists_mem hc
    rcases e with rfl | ⟨_, rfl, hm⟩
    · exact h.reaped c hb pid hp hw (d.runs hr)
    · have hp : b.phase = .reaping pid := hp
      rw [hp] at hm
      exact hm hr

/-- A call comes to the latch. -/
theorem knock {r : Room} (h : Tidy f r) (numbered : Numbered r)
    (out : ∀ v s, g ≠ .inside v s) : Tidy g r.knock := by
  refine h.keep rfl (.of_children rfl) (fun _ => id) ?_ fun v s e => absurd e (out v s)
  rw [Room.gate_knock numbered]
  exact h.free

/-- Once the latch is given back, what runs is recorded. -/
theorem release {t : Turn} {v : Visit} {e : Option Ending}
    (h : Tidy (.inside v (.leaving e)) t.room) (s : Sound (.inside v (.leaving e)) t.room) :
    Tidy (.behind v e) (t.release v).room := by
  have children : (t.release v).room.children = t.room.children := Turn.children_invite _ _ _
  have recorded : (t.release v).room.recorded = t.room.recorded := Turn.recorded_invite _ _ _
  refine of_stageless ?_ (fun _ _ e => nomatch e) ?_
  · intro _ p hp
    rw [recorded]
    exact h.focus v _ rfl p ((Room.Rests.of_children children).works hp)
  · intro c hc
    have hp : c.place ∈ t.room.places := by
      rw [← Turn.places_release t v]
      exact Room.place_mem hc
    obtain ⟨b, hb, e⟩ := List.mem_map.mp hp
    have hb' := s.no_stage s.alone.2 hb
    have he : c.place.phase = b.place.phase := by rw [e]
    rw [Caller.place_phase, Caller.place_phase] at he
    refine ⟨he ▸ hb', ?_⟩
    unfold Turn.release Turn.invite at hc
    split at hc
    · exact h.calm c hc
    · obtain ⟨d, hd, rfl⟩ := List.mem_map.mp hc
      split
      · nofun
      · exact h.calm d hd

end Tidy

/-- The stage at which a call goes on holds if the one at which it waited does. -/
theorem Tidy.goesOn {f : Focus} {r : Room} (h : Tidy f r) (s : Sound f r) {c : Caller} {n : Nat}
    {st : Stage} (mem : c ∈ r.callers) (latch : c.latch = some n)
    (goesOn : c.phase.goesOn? c.wake = some st)
    (awake : c.wake ≠ .asleep ∨ c.phase.stage? = some .vacant) : st.Holds r := by
  have calm := h.calm c mem
  have stages := h.stages c mem
  cases hp : c.phase with
  | queued => rw [hp] at goesOn; cases goesOn
  | joining pid =>
    rw [hp] at goesOn stages
    cases goesOn
    exact stages _ rfl
  | draining =>
    rw [(s.placed.suits mem).latch.mpr hp] at latch
    cases latch
  | grace pid =>
    rw [hp] at goesOn stages
    cases hw : c.wake with
    | interrupted => exact absurd hw calm
    | _ =>
      rw [hw] at goesOn
      cases goesOn
      exact stages _ rfl
  | spawning argv =>
    rw [hp] at goesOn stages
    cases hw : c.wake with
    | interrupted => exact absurd hw calm
    | _ =>
      rw [hw] at goesOn
      cases goesOn
      exact stages _ rfl
  | reaping pid =>
    rw [hp] at goesOn stages awake
    obtain ⟨hr, ho⟩ := stages _ rfl
    cases hw : c.wake with
    | interrupted => exact absurd hw calm
    | asleep =>
      rcases awake with e | e
      · exact absurd hw e
      · cases e
    | woken =>
      rw [hw] at goesOn
      cases goesOn
      have hn := h.reaped c mem pid hp hw
      refine ⟨hr, ?_, fun p hp => ho p (.inr hp)⟩
      intro p hr
      rw [ho p (.inl hr)] at hr
      exact hn hr

theorem Move.tidy {f g : Focus} {t u : Turn} (m : Move f t g u) (s : Sound f t.room)
    (h : Tidy f t.room) : Tidy g u.room := by
  cases m with
  | drift hd _ => exact h.drift hd
  | approach _ => exact h.knock s.counted.numbered fun _ _ e => nomatch e
  | enter ho =>
    rw [← Room.gate_eq (s.counted.visit _ rfl)] at ho
    have hr := h.free (Latch.Orderly.open_calm ho).1
    refine h.keep rfl (.of_children rfl) (fun _ => id) (fun _ => hr) ?_
    rintro v s ⟨rfl, rfl⟩
    exact hr
  | queue ho =>
    rename_i v
    have hn := s.counted.visit _ rfl
    have hg : (t.wait v).room.gate = t.room.gate.wait v.id := by
      rw [Room.gate_eq hn]
      exact Room.gate_setLatch s.counted.numbered hn rfl hn
    exact h.add rfl rfl rfl (by rw [hg]; rfl) (fun _ e => nomatch e) (.inl rfl)
      fun _ _ e => nomatch e
  | letIn mem latch phase wake =>
    have hw := Room.mem_waiting.mpr ⟨mem, phase⟩
    have hr := h.free (Latch.Orderly.of_woken s.orderly hw wake).1
    refine h.keep rfl (.of_children rfl) (fun _ hc => (List.mem_filter.mp hc).1) (fun _ => hr) ?_
    rintro v s ⟨rfl, rfl⟩
    exact hr
  | retreat mem latch phase wake eq => exact absurd wake (h.calm _ mem)
  | resume mem latch goesOn awake =>
    have hs := h.goesOn s mem latch goesOn awake
    refine h.keep rfl (.of_children rfl) (fun _ hc => (List.mem_filter.mp hc).1) h.free ?_
    rintro v s ⟨rfl, rfl⟩
    exact hs
  | pass line =>
    refine h.advance ?_
    rintro v s ⟨rfl, rfl⟩
    exact h.focus _ .entered rfl
  | find request recorded live =>
    refine h.advance ?_
    rintro v s ⟨rfl, rfl⟩
    exact h.focus _ .entered rfl
  | miss line recorded =>
    refine h.advance ?_
    rintro v s ⟨rfl, rfl⟩
    refine ⟨recorded, ?_⟩
    intro p hp
    have := h.focus _ _ rfl p hp
    rw [recorded] at this
    cases this
  | pop line recorded =>
    rename_i v pid
    have hf := h.focus _ _ rfl
    refine .of_stageless ?_ ?_ fun c hc => ⟨s.no_stage s.alone.2 hc, h.calm c hc⟩
    · intro hfree
      have hg : (t.pop pid).room.gate = t.room.gate := rfl
      rw [hg, s.alone.1] at hfree
      cases hfree
    · rintro v s ⟨rfl, rfl⟩
      refine ⟨rfl, ?_⟩
      intro p hp
      have := hf p ((Room.works_pop t pid p).mp hp)
      rw [recorded] at this
      exact (Option.some.inj this).symm
  | reap hr =>
    refine h.advance ?_
    rintro v s ⟨rfl, rfl⟩
    obtain ⟨hn, ho⟩ := h.focus _ _ rfl
    refine ⟨hn, ?_, fun p hp => ho p (.inr hp)⟩
    intro p hp
    exact hr (ho p (.inl hp) ▸ hp)
  | clear hd =>
    refine h.advance ?_
    rintro v s ⟨rfl, rfl⟩
    obtain ⟨hn, hr, ho⟩ := h.focus _ (.clearing _) rfl
    refine ⟨hn, ?_⟩
    rintro p (hp | hp)
    · exact hr p hp
    · exact hd (ho p hp ▸ hp)
  | park stage asleep =>
    rename_i v st phase wake
    refine h.add (c := ⟨v.id, v.request, some v.latch, phase, wake⟩) rfl rfl rfl rfl ?_ ?_
      fun _ _ e => nomatch e
    · intro s hs
      have he : some st = some s := stage.symm.trans hs
      cases he
      exact h.focus _ _ rfl
    · rcases asleep with ⟨e, _⟩ | ⟨e, rfl, _⟩
      · exact .inl e
      · refine .inr ⟨e, ?_⟩
        rintro pid rfl
        cases stage
  | giveUp he =>
    refine h.advance ?_
    rintro v s ⟨rfl, rfl⟩
    intro p hp
    exact absurd hp ((h.focus _ _ rfl).2 p)
  | adopt dir b fresh =>
    have hf := (h.focus _ _ rfl).2
    have hr : ∀ p, (t.room.adopt dir b).Works p → (t.room.adopt dir b).recorded = some p := by
      intro p hp
      rcases Room.works_adopt fresh hp with rfl | hp
      · rfl
      · exact absurd hp (hf p)
    refine .of_stageless (fun _ => hr) ?_ fun c hc => ⟨s.no_stage s.alone.2 hc, h.calm c hc⟩
    rintro v s ⟨rfl, rfl⟩
    exact hr
  | release => exact h.release s
  | depart users more => exact h.keep rfl (.of_children rfl) (fun _ => id) h.free fun _ _ e => nomatch e
  | departLast users recorded =>
    exact h.keep rfl (.of_children rfl) (fun _ => id) h.free fun _ _ e => nomatch e
  | dropLatch users recorded latch =>
    have none := s.counted.last users
    have free : t.room.gate.isHeld = false := by
      have hi := s.orderly.inside
      rw [(s.placed.nobody none).2] at hi
      by_contra hh
      rw [if_pos (eq_true_of_ne_false hh)] at hi
      cases hi
    exact h.keep rfl (.of_children rfl) (fun _ => id) (fun _ => h.free free) fun _ _ e => nomatch e
  | stumble lacks => exact absurd lacks s.counted.sound
  | direct hn => exact h.advance fun _ _ e => nomatch e
  | refuse hs => exact h.advance fun _ _ e => nomatch e
  | write live input => exact h.advance fun _ _ e => nomatch e
  | block => exact h.add rfl rfl rfl rfl (fun _ e => nomatch e) (.inl rfl) fun _ _ e => nomatch e
  | answer he => exact h.advance fun _ _ e => nomatch e
  | finish => exact h.advance fun _ _ e => nomatch e
  | drain mem phase he =>
    exact h.keep rfl (.of_children rfl) (fun _ hc => (List.mem_filter.mp hc).1) h.free
      fun _ _ e => nomatch e
  | forsake mem latch =>
    exact h.keep rfl (.of_children rfl) (fun _ hc => (List.mem_filter.mp hc).1) h.free
      fun _ _ e => nomatch e

theorem Tidy.atRest {f : Focus} {r : Room} (h : Tidy f r) : Tidy .idle r :=
  h.advance fun _ _ e => nomatch e

theorem Tidy.empty (name : SessionName) : Tidy .idle { name } where
  free _ p h := by
    rcases h with ⟨c, hc, _⟩ | ⟨c, hc, _⟩ <;> cases hc
  focus _ _ e := nomatch e
  stages _ h := nomatch h
  calm _ h := nomatch h
  reaped _ h := nomatch h

namespace Sound

variable {r : Room}

/-- A process that runs is recorded, or the call that holds the latch has taken its record away and
waits for it to end. -/
theorem owner (s : Sound .idle r) (h : Tidy .idle r) {p : Pid} (runs : r.Runs p) :
    r.recorded = some p ∨ r.recorded = none ∧ ∃ c ∈ r.callers, ∃ n, c.latch = some n ∧
      r.latch = some n ∧ (r.latchAt n).isHeld ∧ (c.phase = .grace p ∨ c.phase = .reaping p) := by
  cases held : r.gate.isHeld with
  | false => exact .inl (h.free held p (.inl runs))
  | true =>
    obtain ⟨c, hc, n, hl, hn, st, hs⟩ := s.exists_insider held
    rw [Room.gate_eq hn] at held
    have hst := h.stages c hc st hs
    cases hp : c.phase with
    | queued => rw [hp] at hs; cases hs
    | draining => rw [hp] at hs; cases hs
    | grace q =>
      rw [hp] at hs
      cases hs
      obtain rfl := hst.2 p (.inl runs)
      exact .inr ⟨hst.1, c, hc, n, hl, hn, held, .inl hp⟩
    | reaping q =>
      rw [hp] at hs
      cases hs
      obtain rfl := hst.2 p (.inl runs)
      exact .inr ⟨hst.1, c, hc, n, hl, hn, held, .inr hp⟩
    | joining q =>
      rw [hp] at hs
      cases hs
      exact absurd runs (hst.2.1 p)
    | spawning argv =>
      rw [hp] at hs
      cases hs
      exact absurd (.inl runs) (hst.2 p)

/-- No two processes of a name run. -/
theorem runs_unique (s : Sound .idle r) (h : Tidy .idle r) {p q : Pid} (hp : r.Runs p)
    (hq : r.Runs q) : p = q := by
  have hp : r.Works p := .inl hp
  have hq : r.Works q := .inl hq
  cases held : r.gate.isHeld with
  | false => exact Option.some.inj ((h.free held p hp).symm.trans (h.free held q hq))
  | true =>
    obtain ⟨c, hc, n, hl, hn, st, hs⟩ := s.exists_insider held
    have hst := h.stages c hc st hs
    cases st with
    | entered => exact Option.some.inj ((hst p hp).symm.trans (hst q hq))
    | leaving e => exact Option.some.inj ((hst p hp).symm.trans (hst q hq))
    | holding pid => exact (hst.2 p hp).trans (hst.2 q hq).symm
    | clearing pid =>
      have only {p : Pid} (hp : r.Works p) : p = pid :=
        hp.elim (fun hr => absurd hr (hst.2.1 p)) (hst.2.2 p)
      exact (only hp).trans (only hq).symm
    | vacant => exact absurd hp (hst.2 p)

/-- What is preserved however the record and the processes are handled. -/
theorem act_handles {P : Room → Prop} (h : Sound .idle r) {s : Setting} (sane : s.Sane)
    {a : Action} (fits : a.Fits r)
    (step : ∀ {f t u}, Handles f t u → P t.room → P u.room) (start : P r) :
    P (r.act s a).room := by
  obtain ⟨f, _, hf⟩ := h.act_yields (P := fun _ t => P t.room) sane fits
    (fun m hm hk => step (m.handles hm) hk)
    (fun hs hk => step (f := .idle) (.same hs.children hs.recorded) hk) start
  exact hf

end Sound

namespace Course

variable {name : SessionName} {ds : List Deed} {r : Room}

theorem recent (c : Course name ds r) : Recent r := by
  induction c with
  | start => exact ⟨.nil, by nofun, by nofun⟩
  | act c s sane a call birth ih =>
    exact c.sound.act_handles sane (c.fits call birth) (fun h => h.recent) ih

theorem tidy (c : Course name ds r) (calm : Calm ds) : Tidy .idle r := by
  induction c with
  | start => exact .empty name
  | act c s sane a call birth ih =>
    rename_i ds r
    have hr : Tidy .idle r := ih calm.tail
    have start : Tidy a.focus r := by
      refine hr.advance ?_
      cases a <;> exact fun _ _ e => nomatch e
    obtain ⟨f, _, hf⟩ := c.sound.act_preserves (P := fun f t => Tidy f t.room) sane
      (c.fits call birth) (calm _ List.mem_cons_self) (fun m hm hk => m.tidy hm hk) start
    exact hf.atRest

end Course

end ToolHost.Session

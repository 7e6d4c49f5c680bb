import Mathlib
import ToolHost.Proofs.Session.Births
import ToolHost.Proofs.Session.Past

/-!
# What is done after the past

The processes of the past have ended and nobody comes back to them, the lines of the past only wait
for their ends, and no call goes to a latch of the past. So what is done about the past changes
nothing else, and everything else goes on as in a room that never had it.
-/
namespace ToolHost.Session

/-! ## Apart from the past -/

/-- The process that the call under way sees to its end. -/
def Focus.pid? : Focus → Option Pid
  | .inside _ (.holding pid) | .inside _ (.clearing pid) => some pid
  | _ => none

/-- A call of the past waits for nothing but its line to be taken, any other one for no process of
the past. -/
structure Past.Clears (o : Past) (c : Caller) : Prop where
  pid : ∀ p, c.phase.pid? = some p → p ∉ o.pids
  drains : c.id ∈ o.ids → c.phase = .draining

/-- What is of the past plays no part any more. -/
structure Apart (o : Past) (f : Focus) (r : Room) : Prop where
  recorded : ∀ p, r.recorded = some p → p ∉ o.pids
  pid : ∀ p, f.pid? = some p → p ∉ o.pids
  self : ∀ i, f.self? = some i → i ∉ o.ids
  latch : o.latches ≤ r.latchNumber
  callers : ∀ c ∈ r.places, o.Clears c
  still : ∀ p ∈ o.pids, p ∈ r.pids ∧ ¬ r.Works p

theorem Phase.pid?_of_goesOn {p : Phase} {w : Wake} {s : Stage} (h : p.goesOn? w = some s)
    (v : Visit) : (Focus.inside v s).pid? = none ∨ (Focus.inside v s).pid? = p.pid? := by
  cases p <;> cases w <;> cases h <;> first | exact .inl rfl | exact .inr rfl

theorem Phase.pid?_of_stage {p : Phase} {s : Stage} (h : p.stage? = some s) (v : Visit) :
    (Focus.inside v s).pid? = p.pid? := by
  cases p <;> cases h <;> rfl

/-- A process that is none of those that run has ended, and so has its relay. -/
theorem Room.over_of_not_works {r : Room} {pid : Pid} (mem : pid ∈ r.pids) (h : ¬ r.Works pid) :
    (r.child pid).hasEnded ∧ (r.child pid).relay.isDone := by
  constructor
  · by_contra hn
    exact h (.inl ((r.runs_iff pid).mpr ⟨mem, by simpa [Child.hasEnded] using hn⟩))
  · by_contra hn
    exact h (.inr ((r.relays_iff pid).mpr ⟨mem, by simpa using hn⟩))

theorem Room.latchNumber_le {r q : Room} (latch : q.latch = r.latch)
    (length : q.latches.length = r.latches.length) : r.latchNumber ≤ q.latchNumber := by
  rw [latchNumber, latchNumber, latch, length]

/-- The latch that calls go to never comes before the one that they went to. -/
theorem Move.latchNumber_le {f g : Focus} {t u : Turn} (m : Move f t g u) (s : Sound f t.room) :
    t.room.latchNumber ≤ u.room.latchNumber := by
  have invited (w : Turn) (n : Nat) (l : Latch × Option CallId) :
      w.room.latchNumber ≤ (w.invite n l).room.latchNumber := by
    refine Room.latchNumber_le (Turn.latch_invite _ _ _) ?_
    rw [Turn.latches_invite]
    exact List.length_map _
  cases m with
  | drift hd _ => exact Room.latchNumber_le hd.latch (congrArg _ hd.latches)
  | approach _ => exact le_rfl
  | enter _ => exact Room.latchNumber_le rfl (List.length_map _)
  | queue _ => exact Room.latchNumber_le rfl (List.length_map _)
  | letIn mem latch phase wake =>
    exact Room.latchNumber_le rfl ((List.length_map _).trans (List.length_map _))
  | retreat mem latch phase wake eq =>
    rename_i c n
    subst eq
    have quits : t.room.latchNumber ≤ ((t.unpark c.id).quit (c.visit n)).room.latchNumber :=
      Room.latchNumber_le rfl (List.length_map _)
    split
    · exact quits
    · exact quits.trans (invited _ _ _)
  | release => exact invited (t.say _) _ _
  | dropLatch users recorded latch =>
    obtain ⟨n, hn⟩ := Option.isSome_iff_exists.mp latch
    have inRange := s.counted.numbered.inRange n hn
    simp only [Room.latchNumber, hn, Option.getD_some, Option.getD_none]
    exact inRange.le
  | stumble lacks => exact absurd lacks s.counted.sound
  | _ => exact le_rfl

/-- No process comes back. -/
theorem Handles.still {f : Focus} {t u : Turn} (h : Handles f t u) {p : Pid}
    (mem : p ∈ t.room.pids) (still : ¬ t.room.Works p) : p ∈ u.room.pids ∧ ¬ u.room.Works p := by
  cases h with
  | drift h => exact ⟨h.pids ▸ mem, fun hw => still ((Room.Rests.of_drift h).works hw)⟩
  | pop v pid focus recorded eq =>
    subst eq
    exact ⟨(t.pids_pop pid).symm ▸ mem, fun hw => still ((Room.works_pop t pid p).mp hw)⟩
  | adopt v dir b focus fresh eq =>
    subst eq
    refine ⟨(t.room.pids_adopt dir b).symm ▸ List.mem_append_left _ mem, fun hw => ?_⟩
    rcases Room.works_adopt fresh hw with rfl | hw
    · exact fresh mem
    · exact still hw
  | same children recorded =>
    exact ⟨Room.pids_congr children ▸ mem,
      fun hw => still ((Room.Rests.of_children children).works hw)⟩

/-- Only a new process comes to be recorded. -/
theorem Handles.recorded {f : Focus} {t u : Turn} (h : Handles f t u) {p : Pid}
    (hp : u.room.recorded = some p) : t.room.recorded = some p ∨ p ∉ t.room.pids := by
  cases h with
  | drift h => exact .inl (h.recorded ▸ hp)
  | pop v pid focus recorded eq =>
    subst eq
    cases hp
  | adopt v dir b focus fresh eq =>
    subst eq
    cases hp
    exact .inr fresh
  | same children recorded => exact .inl (recorded ▸ hp)

theorem Move.apart {o : Past} {f g : Focus} {t u : Turn} (m : Move f t g u) (s : Sound f t.room)
    (h : Apart o f t.room) : Apart o g u.room := by
  have handles := m.handles s
  have records : ∀ p, u.room.recorded = some p → p ∉ o.pids := fun p hp past =>
    (handles.recorded hp).elim (h.recorded p · past) fun fresh => fresh (h.still p past).1
  have number := h.latch.trans (m.latchNumber_le s)
  have still : ∀ p ∈ o.pids, p ∈ u.room.pids ∧ ¬ u.room.Works p := fun p hp =>
    handles.still (h.still p hp).1 (h.still p hp).2
  have next {g : Focus} (pid : ∀ p, g.pid? = some p → p ∉ o.pids)
      (self : ∀ i, g.self? = some i → i ∉ o.ids) (callers : ∀ c ∈ u.room.places, o.Clears c) :
      Apart o g u.room := ⟨records, pid, self, number, callers, still⟩
  -- No call changes its place.
  have keep {g : Focus} (places : u.room.places = t.room.places)
      (pid : g.pid? = none ∨ g.pid? = f.pid? ∨ g.pid? = t.room.recorded)
      (self : g.self? = f.self? ∨ g.self? = none) : Apart o g u.room := by
    refine next (fun p hp => ?_) (fun i hi => ?_) (places ▸ h.callers)
    · rcases pid with e | e | e
      · rw [e] at hp
        cases hp
      · exact h.pid p (e ▸ hp)
      · exact h.recorded p (e ▸ hp)
    · rcases self with e | e
      · exact h.self i (e ▸ hi)
      · rw [e] at hi
        cases hi
  -- A call that waits goes on.
  have remove {g : Focus} {c : Caller} (mem : c ∈ t.room.callers)
      (places : u.room.places = t.room.places.filter (·.id != c.id))
      (pid : g.pid? = none ∨ g.pid? = c.phase.pid?)
      (self : g.self? = none ∨ g.self? = some c.id ∧ c.phase ≠ .draining) : Apart o g u.room := by
    have clears := h.callers c.place (Room.place_mem mem)
    refine next (fun p hp => ?_) (fun i hi => ?_) fun d hd => ?_
    · rcases pid with e | e
      · rw [e] at hp
        cases hp
      · exact clears.pid p (e ▸ hp)
    · rcases self with e | ⟨e, phase⟩
      · rw [e] at hi
        cases hi
      · rw [e] at hi
        cases hi
        exact fun past => phase (clears.drains past)
    · rw [places] at hd
      exact h.callers d (List.mem_filter.mp hd).1
  -- The call under way waits.
  have add {g : Focus} {c : Caller} (places : u.room.places = t.room.places ++ [c])
      (own : f.self? = some c.id) (pid : c.phase.pid? = none ∨ c.phase.pid? = f.pid?)
      (gone : g.pid? = none ∧ g.self? = none) : Apart o g u.room := by
    refine next (fun p hp => ?_) (fun i hi => ?_) fun d hd => ?_
    · rw [gone.1] at hp
      cases hp
    · rw [gone.2] at hi
      cases hi
    · rw [places] at hd
      rcases List.mem_append.mp hd with hd | hd
      · exact h.callers d hd
      · rw [List.mem_singleton.mp hd]
        refine ⟨fun p hp => ?_, fun past => absurd past (h.self _ own)⟩
        rcases pid with e | e
        · rw [e] at hp
          cases hp
        · exact h.pid p (e ▸ hp)
  cases m with
  | drift hd _ => exact keep hd.places (.inr (.inl rfl)) (.inl rfl)
  | approach _ => exact keep rfl (.inl rfl) (.inl rfl)
  | enter _ => exact keep rfl (.inl rfl) (.inl rfl)
  | queue _ =>
    exact add (Turn.places_wait _ _) rfl (.inl rfl) ⟨rfl, rfl⟩
  | letIn mem latch phase wake =>
    refine remove mem (by simp) (.inl rfl) (.inr ⟨rfl, ?_⟩)
    rw [phase]
    exact Phase.noConfusion
  | retreat mem latch phase wake eq =>
    subst eq
    refine remove mem (by split <;> simp) (.inl rfl) (.inr ⟨rfl, ?_⟩)
    rw [phase]
    exact Phase.noConfusion
  | resume mem latch goesOn awake =>
    refine remove mem (Turn.places_unpark _ _) (Phase.pid?_of_goesOn goesOn _) (.inr ⟨rfl, ?_⟩)
    intro phase
    rw [(s.placed.suits mem).latch.mpr phase] at latch
    cases latch
  | pass line => exact keep rfl (.inl rfl) (.inl rfl)
  | find request recorded live => exact keep rfl (.inl rfl) (.inl rfl)
  | miss line recorded => exact keep rfl (.inl rfl) (.inl rfl)
  | pop line recorded => exact keep rfl (.inr (.inr recorded.symm)) (.inl rfl)
  | reap hr => exact keep rfl (.inr (.inl rfl)) (.inl rfl)
  | clear => exact keep rfl (.inl rfl) (.inl rfl)
  | park stage asleep =>
    rename_i v st phase wake
    exact add (Turn.places_parkIn _ _ _ _) rfl (.inr (Phase.pid?_of_stage stage v).symm)
      ⟨rfl, rfl⟩
  | giveUp he => exact keep rfl (.inl rfl) (.inl rfl)
  | adopt dir b fresh => exact keep rfl (.inl rfl) (.inl rfl)
  | release => exact keep (Turn.places_release _ _) (.inl rfl) (.inl rfl)
  | depart users more => exact keep rfl (.inl rfl) (.inl rfl)
  | departLast users recorded => exact keep rfl (.inl rfl) (.inl rfl)
  | dropLatch users recorded latch => exact keep rfl (.inl rfl) (.inl rfl)
  | stumble lacks => exact absurd lacks s.counted.sound
  | direct hn => exact keep rfl (.inl rfl) (.inl rfl)
  | refuse hs => exact keep rfl (.inl rfl) (.inr rfl)
  | write live input => exact keep rfl (.inl rfl) (.inl rfl)
  | block => exact add (Room.places_append _ _) rfl (.inl rfl) ⟨rfl, rfl⟩
  | answer he => exact keep rfl (.inl rfl) (.inr rfl)
  | finish => exact keep rfl (.inl rfl) (.inr rfl)
  | drain mem phase he =>
    exact remove mem (Turn.places_unpark _ _) (.inl rfl) (.inl rfl)
  | forsake mem latch =>
    exact remove mem (Turn.places_unpark _ _) (.inl rfl) (.inl rfl)

theorem Apart.spare {o : Past} {t u : Turn} (h : Apart o .idle t.room) (s : Spares t u) :
    Apart o .idle u.room where
  recorded p hp := h.recorded p (s.recorded ▸ hp)
  pid _ e := nomatch e
  self _ e := nomatch e
  latch :=
    h.latch.trans (Room.latchNumber_le s.latch (by simpa using congrArg List.length s.numbers))
  callers := s.places ▸ h.callers
  still p hp := by
    refine ⟨Room.pids_congr s.children ▸ (h.still p hp).1, fun hw => (h.still p hp).2 ?_⟩
    exact (Room.Rests.of_children s.children).works hw

/-! ## Actions -/

/-- The process that an action is about. -/
def Action.pid? : Action → Option Pid
  | .relay pid | .exit pid _ | .output pid _ | .closeOutput pid => some pid
  | _ => none

/-- Whether an action is about a process or a call of the past. -/
def Action.isPast (o : Past) (a : Action) : Bool :=
  a.pid?.any (· ∈ o.pids) || a.caller?.any (· ∈ o.ids)

/-- Whether a job is about a process or a call of the past. -/
def Job.isPast (o : Past) : Job → Bool
  | .resume id | .notice id => id ∈ o.ids
  | .relay pid | .input pid _ | .inputEnd pid => pid ∈ o.pids

namespace Apart

variable {o : Past} {r : Room}

theorem drains (h : Apart o .idle r) : o.Drains r := fun c hc => (h.callers c hc).drains

theorem latches (h : Apart o .idle r) (sound : Sound .idle r) :
    ∀ c ∈ r.callers, ∀ n, c.latch = some n → o.latches ≤ n := by
  intro c hc n hn
  have same : r.latch = some n := sound.counted.same c.place (Room.place_mem hc) n hn
  simpa [Room.latchNumber, same] using h.latch

/-- What is not about the past is done as if that had not been. -/
theorem act_forget (h : Apart o .idle r) (sound : Sound .idle r) (s : Setting) {a : Action}
    (present : a.isPast o = false) (birth : ∀ b, a.birth? = some b → b.pid ∉ r.pids) :
    (r.forget o).act s a = (r.act s a).forget o := by
  let t : Turn := { room := r }
  have hp {pid : Pid} (e : a.pid? = some pid) : pid ∉ o.pids := by
    simpa [Action.isPast, e] using (Bool.or_eq_false_iff.mp present).1
  have hi {id : CallId} (e : a.caller? = some id) : id ∉ o.ids := by
    simpa [Action.isPast, e] using (Bool.or_eq_false_iff.mp present).2
  have latches := h.latches sound
  cases a with
  | begin id request =>
    exact t.forget_begin o s (hi rfl) sound.counted.numbered h.latch h.recorded h.drains request
  | resume id =>
    exact t.forget_resume o s (hi rfl) latches h.recorded h.drains
      fun c hc => (h.callers c.place (Room.place_mem hc)).pid
  | launched id outcome =>
    refine t.forget_launched o s (hi rfl) latches fun b hb past => ?_
    exact birth b (by rw [hb]; rfl) (h.still _ past).1
  | wake id => exact t.forget_wake o (hi rfl)
  | relay pid => exact t.forget_relay o (hp rfl) h.drains
  | exit pid code => exact t.forget_exit o (hp rfl) h.drains code
  | output pid portion => exact t.forget_output o (hp rfl) portion
  | closeOutput pid => exact t.forget_closeOutput o (hp rfl)
  | drained id isBroken => exact t.forget_drained o (hi rfl) isBroken
  | cancel id =>
    refine t.forget_cancel o (hi rfl) latches fun c hc phase latch => ?_
    rw [(sound.placed.suits hc).latch.mp latch] at phase
    cases phase
  | clear => exact t.forget_clear o
  | openDisplay => exact t.forget_openDisplay o

end Apart

/-- What was done left everything as it was but the past. -/
structure Turn.OnlyPast (o : Past) (r : Room) (t : Turn) : Prop where
  room : t.room.forget o = r.forget o
  jobs : ∀ j ∈ t.jobs, j.isPast o
  alarms : t.alarms = []
  returned : ∀ x, t.returned = some x → x.1 ∈ o.ids

namespace Turn.OnlyPast

variable {o : Past} {r : Room} {t : Turn}

/-- Nothing comes of it. -/
theorem quiet (room : t.room.forget o = r.forget o) (jobs : t.jobs = []) (alarms : t.alarms = [])
    (returned : t.returned = none) : t.OnlyPast o r where
  room := room
  jobs j hj := by
    rw [jobs] at hj
    cases hj
  alarms := alarms
  returned x hx := by
    rw [returned] at hx
    cases hx

/-- A call of the past ends. -/
theorem ends {id : CallId} {e : Ending} (room : t.room.forget o = r.forget o) (jobs : t.jobs = [])
    (alarms : t.alarms = []) (returned : t.returned = some (id, e)) (hi : id ∈ o.ids) :
    t.OnlyPast o r where
  room := room
  jobs j hj := by
    rw [jobs] at hj
    cases hj
  alarms := alarms
  returned x hx := by
    rw [returned] at hx
    cases hx
    exact hi

end Turn.OnlyPast

namespace Apart

variable {o : Past} {r : Room}

/-- What is done with a call of the past changes nothing but the past. -/
theorem act_of_caller (h : Apart o .idle r) (sound : Sound .idle r) (s : Setting) {a : Action}
    {id : CallId} (about : a.caller? = some id) (hi : id ∈ o.ids) (begun : a.call? = none) :
    (r.act s a).OnlyPast o r := by
  have still : Turn.OnlyPast o r { room := r } := .quiet rfl rfl rfl rfl
  have drains {c : Caller} (hc : r.caller? id = some c) : c.phase = .draining :=
    (h.callers c.place (Room.place_mem (Room.mem_of_caller? hc))).drains
      ((Room.id_of_caller? hc).symm ▸ hi)
  have outside {c : Caller} (hc : r.caller? id = some c) : c.latch = none :=
    (sound.placed.suits (Room.mem_of_caller? hc)).latch.mpr (drains hc)
  have gone := Turn.forget_unpark_past o { room := r } hi
  cases a with
  | begin i request => cases begun
  | resume i =>
    cases about
    change (Turn.resume { room := r } s id).OnlyPast o r
    unfold Turn.resume
    cases hc : r.caller? id with
    | none => exact still
    | some c =>
      simp only [outside hc, drains hc]
      cases c.wake with
      | asleep => exact still
      | _ => exact .ends gone rfl rfl rfl hi
  | launched i outcome =>
    cases about
    change (Turn.launched { room := r } s id outcome).OnlyPast o r
    unfold Turn.launched
    cases hc : r.caller? id with
    | none => exact still
    | some c =>
      have none := outside hc
      obtain ⟨i, request, l, phase, wake⟩ := c
      cases none
      exact still
  | wake i =>
    cases about
    change (Turn.wake { room := r } id).OnlyPast o r
    unfold Turn.wake
    cases hc : r.caller? id with
    | none => exact still
    | some c =>
      have phase := drains hc
      have out : r.isInGrace id = false := by
        unfold Room.isInGrace
        rw [hc]
        obtain ⟨i, request, l, p, wake⟩ := c
        cases phase
        rfl
      simp only [out]
      exact still
  | drained i isBroken =>
    cases about
    change (Turn.drained { room := r } id isBroken).OnlyPast o r
    unfold Turn.drained
    split
    · simp only
      split
      · exact .ends gone rfl rfl rfl hi
      · exact .ends gone rfl rfl rfl hi
    · exact still
  | cancel i =>
    cases about
    change (Turn.cancel { room := r } id).OnlyPast o r
    unfold Turn.cancel
    cases hc : r.caller? id with
    | none => exact still
    | some c =>
      have told : (r.setCaller { c with wake := .interrupted }).forget o = r.forget o :=
        r.forget_setCaller_past o ((Room.id_of_caller? hc).symm ▸ hi)
      have phase := drains hc
      obtain ⟨i, request, l, p, wake⟩ := c
      cases phase
      cases wake with
      | asleep =>
        refine ⟨told, fun j hj => ?_, rfl, fun _ e => nomatch e⟩
        rw [List.mem_singleton.mp hj]
        exact decide_eq_true hi
      | _ => exact .quiet told rfl rfl rfl
  | _ => cases about

/-- What is done with a process of the past changes nothing but the past. -/
theorem act_of_pid (h : Apart o .idle r) (s : Setting) {a : Action} {pid : Pid}
    (about : a.pid? = some pid) (hp : pid ∈ o.pids) : (r.act s a).OnlyPast o r := by
  have still : Turn.OnlyPast o r { room := r } := .quiet rfl rfl rfl rfl
  obtain ⟨ended, done⟩ := Room.over_of_not_works (h.still pid hp).1 (h.still pid hp).2
  have put {t : Turn} (room : t.room = r) (jobs : t.jobs = []) (alarms : t.alarms = [])
      (returned : t.returned = none) {c : Child} (hc : c.pid = pid) (past : c.relay.isDone) :
      (t.rouse c).OnlyPast o r := by
    have progress : c.relay.progress = .done := by simpa [Relay.isDone] using past
    have same : c.rouse = (c, false) := by simp [Child.rouse, progress]
    unfold Turn.rouse
    rw [same]
    refine .quiet ?_ jobs alarms returned
    change (t.room.setChild c).forget o = r.forget o
    rw [room]
    exact r.forget_setChild_past o (hc ▸ hp)
  cases a with
  | relay p =>
    cases about
    change (Turn.relay { room := r } pid).OnlyPast o r
    exact (Turn.relay_of_done (t := { room := r }) done).symm ▸ still
  | exit p code =>
    cases about
    change (Turn.exit { room := r } pid code).OnlyPast o r
    unfold Turn.exit
    exact (if_pos ended).symm ▸ still
  | output p portion =>
    cases about
    change (Turn.output { room := r } pid portion).OnlyPast o r
    have number : ((r.child pid).write portion).pid = pid := by
      unfold Child.write
      split <;> exact r.child_pid pid
    have past : ((r.child pid).write portion).relay.isDone := by
      unfold Child.write
      split <;> exact done
    unfold Turn.output
    simp only
    split
    · exact put rfl rfl rfl rfl number past
    · exact put rfl rfl rfl rfl number past
  | closeOutput p =>
    cases about
    exact put rfl rfl rfl rfl (r.child_pid pid) done
  | _ => cases about

/-- What is done about the past changes nothing but the past. -/
theorem act_past (h : Apart o .idle r) (sound : Sound .idle r) (s : Setting) {a : Action}
    (past : a.isPast o) (call : ∀ q, a.call? = some q → q.1 ∉ o.ids) :
    (r.act s a).OnlyPast o r := by
  rcases (Bool.or_eq_true _ _).mp past with about | about
  · cases hp : a.pid? with
    | none =>
      rw [hp] at about
      cases about
    | some pid => exact h.act_of_pid s hp (by simpa [hp] using about)
  · cases hi : a.caller? with
    | none =>
      rw [hi] at about
      cases about
    | some id =>
      have mem : id ∈ o.ids := by simpa [hi] using about
      refine h.act_of_caller sound s hi mem ?_
      cases a with
      | begin i request =>
        cases hi
        exact absurd mem (call _ rfl)
      | _ => rfl

end Apart

/-! ## Courses -/

/-- What deeds make of a room when they are done there, one after another. -/
def Room.replay (r : Room) : List Deed → Room
  | [] => r
  | d :: ds => ((r.replay ds).act d.setting d.action).room

/-- The deeds that are not about the past. -/
def Past.others (o : Past) (ds : List Deed) : List Deed := ds.filter fun d => !d.action.isPast o

namespace Course

variable {name : SessionName} {o : Past} {ds later : List Deed} {r q : Room}

theorem known_append (xs : List Deed) {id : CallId} (h : id ∈ (calls ds).map (·.1)) :
    id ∈ (calls (xs ++ ds)).map (·.1) := by
  rw [calls_append, List.map_append]
  exact List.mem_append_right _ h

/-- What is of the past plays no part whatever is done later. -/
theorem apart (c : Course name ds r) (k : Course name (later ++ ds) q) (apart : Apart o .idle r)
    (ids : o.ids ⊆ (calls ds).map (·.1)) : Apart o .idle q := by
  have new {p : CallId × Request} (hp : p ∈ calls later) : p.1 ∉ o.ids := by
    have nodup := k.nodup_calls
    rw [calls_append, List.map_append] at nodup
    exact fun past =>
      (List.disjoint_of_nodup_append nodup) (List.mem_map_of_mem hp) (ids past)
  refine c.preserved k (fun {x s a} sound sane fits known h => ?_) apart
  have start : Apart o a.focus x := by
    cases a with
    | begin id request =>
      refine ⟨h.recorded, (fun _ e => nomatch e), fun i hi => ?_, h.latch, h.callers, h.still⟩
      cases hi
      exact new (known _ rfl)
    | _ => exact h
  obtain ⟨f, -, hf⟩ := sound.act_yields (P := fun f t => Apart o f t.room) sane fits
    (fun m hm hk => m.apart hm hk) (fun hs hk => hk.spare hs) start
  exact ⟨hf.recorded, (fun _ e => nomatch e), (fun _ e => nomatch e), hf.latch, hf.callers,
    hf.still⟩

/-- Without its past the room is what the deeds that are not about it make of a room that has
none. -/
theorem forget_eq_replay (c : Course name ds r) (k : Course name (later ++ ds) q)
    (apart : Apart o .idle r) (ids : o.ids ⊆ (calls ds).map (·.1)) :
    q.forget o = (r.forget o).replay (o.others later) := by
  induction later generalizing q with
  | nil =>
    rw [c.room_unique k]
    rfl
  | cons d later ih =>
    cases k with
    | act k s sane a call birth =>
      rename_i x
      have before := ih k
      have apart := c.apart k apart ids
      cases past : a.isPast o with
      | true =>
        have only := apart.act_past k.sound s past fun p hp mem => ?_
        · rw [only.room, before]
          simp [Past.others, past]
        · exact call p hp (known_append later (ids mem))
      | false =>
        have same := apart.act_forget k.sound s past birth
        have split : o.others (⟨x, s, a⟩ :: later) = ⟨x, s, a⟩ :: o.others later := by
          simp [Past.others, past]
        rw [split]
        change (x.act s a).room.forget o = ((Room.replay _ _).act s a).room
        rw [← before, same]
        rfl

/-- Of what is done later, all that is about the past changes nothing else, and everything else is
done as in a room that has no past. -/
theorem done_anew (c : Course name ds r) {d : Deed} {ys : List Deed}
    (k : Course name (later ++ d :: ys ++ ds) q) (apart : Apart o .idle r)
    (ids : o.ids ⊆ (calls ds).map (·.1)) :
    (d.action.isPast o = false →
        d.turn.forget o = ((r.forget o).replay (o.others ys)).act d.setting d.action) ∧
      (d.action.isPast o → d.turn.OnlyPast o d.room) := by
  rw [List.append_assoc] at k
  obtain ⟨before, sane, call, fits⟩ := k.back
  have now := c.apart before apart ids
  refine ⟨fun new => ?_, fun past => ?_⟩
  · rw [← c.forget_eq_replay before apart ids]
    exact (now.act_forget before.sound d.setting new fits.birth).symm
  · exact now.act_past before.sound d.setting past fun p hp mem =>
      call p hp (known_append ys (ids mem))

end Course

/-! ## All that there was -/

/-- All that is over in a room where nothing is recorded: its processes, the lines on their way and
the latches before the one that calls go to. -/
def Room.past (r : Room) : Past :=
  ⟨r.pids, (r.callers.filter fun c => c.latch = none).map (·.id), r.latchNumber⟩

/-- The calls that do not count at the latch are those of the past. -/
theorem Sound.mem_past {r : Room} (h : Sound .idle r) {c : Caller} (mem : c ∈ r.callers) :
    c.id ∈ r.past.ids ↔ c.latch = none := by
  constructor
  · intro past
    obtain ⟨y, hy, same⟩ := List.mem_map.mp past
    obtain ⟨other, latch⟩ := List.mem_filter.mp hy
    have eq : y = c := List.inj_on_of_nodup_map h.placed.nodup other mem same
    exact eq ▸ by simpa using latch
  · intro latch
    exact List.mem_map_of_mem (List.mem_filter.mpr ⟨mem, by simpa using latch⟩)

/-- Where nothing is recorded, nothing runs, no relay goes on and nobody waits inside the latch, all
that there was is over. -/
theorem Sound.apart_past {r : Room} (h : Sound .idle r) (vacant : Stage.vacant.Holds r)
    (outside : r.insiders = 0) : Apart r.past .idle r where
  recorded p hp := by
    rw [vacant.1] at hp
    cases hp
  pid _ e := nomatch e
  self _ e := nomatch e
  latch := le_rfl
  callers c hc := by
    obtain ⟨x, hx, rfl⟩ := List.mem_map.mp hc
    refine ⟨fun p hp => ?_, fun past => ?_⟩
    · have none := h.no_stage outside hx
      have phase : x.phase.pid? = some p := hp
      cases hx : x.phase <;> rw [hx] at none phase <;> cases none <;> cases phase
    · exact (h.placed.suits hx).latch.mp ((h.mem_past hx).mp past)
  still p hp := ⟨hp, vacant.2 p⟩

/-- A room without all that there was: as it is when no process was ever created, but for the
display that is there already and the calls at the latch. -/
structure Room.Blank (r q : Room) : Prop where
  name : q.name = r.name
  children : q.children = []
  recorded : q.recorded = none
  display : q.display = r.display
  gate : q.gate = r.gate
  users : q.users = r.users
  callers : q.callers = (r.callers.filter (·.latch.isSome)).map fun c => { c with latch := some 0 }
  empty : (∀ c ∈ r.callers, c.latch = none) → q = { name := r.name, display := r.display }

theorem Room.forget_gate (r : Room) : (r.forget r.past).gate = r.gate := by
  have latch : (r.forget r.past).latch = r.latch.map (· - r.latchNumber) := rfl
  unfold gate
  rw [latch]
  cases hl : r.latch with
  | none => rfl
  | some n =>
    have number : r.latchNumber = n := by simp [latchNumber, hl]
    have same := r.forget_latchAt r.past (n := n) number.le
    simp only [Option.map_some, number]
    exact number ▸ same

/-- What is left are the calls at the latch, which is the first one now. -/
theorem Sound.callers_forget {r : Room} (h : Sound .idle r) : (r.forget r.past).callers =
    (r.callers.filter (·.latch.isSome)).map fun c => { c with latch := some 0 } := by
  have present : r.callers.filter (fun c => c.id ∉ r.past.ids) =
      r.callers.filter (·.latch.isSome) := by
    refine List.filter_congr fun c hc => ?_
    have past := h.mem_past hc
    cases hl : c.latch <;> simp_all
  change (r.callers.filter fun c => c.id ∉ r.past.ids).map r.past.caller = _
  rw [present]
  refine List.map_congr_left fun c hc => ?_
  obtain ⟨mem, latch⟩ := List.mem_filter.mp hc
  obtain ⟨n, hn⟩ := Option.isSome_iff_exists.mp latch
  have same : r.latch = some n := h.counted.same c.place (Room.place_mem mem) n hn
  simp [Past.caller, Room.past, Room.latchNumber, hn, same]

/-- Where nobody is at the latch and nothing is recorded there is no latch. -/
theorem Counted.nobody {r : Room} (h : Counted .idle r) (recorded : r.recorded = none)
    (out : ∀ c ∈ r.callers, c.latch = none) : r.users = none ∧ r.latch = none := by
  have zero : r.atLatch = 0 := by
    refine List.countP_eq_zero.mpr fun p hp => ?_
    obtain ⟨c, hc, rfl⟩ := List.mem_map.mp hp
    simp [out c hc]
  have users : r.users = none := by
    rw [h.users, zero]
    rfl
  have kept := h.kept
  rw [users, recorded] at kept
  exact ⟨users, by simpa using kept⟩

theorem Numbered.latches_forget {r : Room} (h : Numbered r) (latch : r.latch = none) :
    (r.forget r.past).latches = [] := by
  have number : r.past.latches = r.latches.length := by
    simp [Room.past, Room.latchNumber, latch]
  refine List.length_eq_zero_iff.mp ?_
  rw [r.forget_length_latches r.past h, number, Nat.sub_self]

theorem Sound.blank {r : Room} (h : Sound .idle r) (recorded : r.recorded = none) :
    r.Blank (r.forget r.past) := by
  have children : (r.forget r.past).children = [] :=
    List.filter_eq_nil_iff.mpr fun c hc => by simp [Room.past, Room.pids, List.mem_map_of_mem hc]
  refine ⟨rfl, children, recorded, rfl, r.forget_gate, rfl, h.callers_forget, fun out => ?_⟩
  obtain ⟨users, latch⟩ := h.counted.nobody recorded out
  have none : (r.forget r.past).latch = none := by
    change r.latch.map _ = none
    rw [latch]
    rfl
  have callers : (r.forget r.past).callers = [] := by
    rw [h.callers_forget, List.filter_eq_nil_iff.mpr fun c hc => by simp [out c hc]]
    rfl
  exact (Room.mk.injEq ..).mpr ⟨rfl, h.counted.numbered.latches_forget latch, none, users, recorded,
    rfl, children, callers⟩

/-- From some moment on a room is as if no process had ever been created there: the calls and the
processes that come later are none of the past, all that is not about the past is done as in the
blank room, and the rest changes nothing but the past. -/
structure Room.StartsAnew (r : Room) (later : List Deed) : Prop where
  blank : r.Blank (r.forget r.past)
  calls : ∀ d ∈ later, ∀ id ∈ (Session.calls later).map (·.1), d.action.caller? = some id →
    d.action.isPast r.past = false
  births : ∀ d ∈ later, ∀ b, d.action.birth? = some b → b.pid ∉ r.past.pids
  anew : ∀ xs d ys, later = xs ++ d :: ys → d.action.isPast r.past = false →
    d.turn.forget r.past =
      ((r.forget r.past).replay (r.past.others ys)).act d.setting d.action
  past : ∀ d ∈ later, d.action.isPast r.past → d.turn.OnlyPast r.past d.room

theorem Course.starts_anew {name : SessionName} {ds later : List Deed} {r q : Room}
    (c : Course name ds r) (k : Course name (later ++ ds) q) (vacant : Stage.vacant.Holds r)
    (outside : r.insiders = 0) : r.StartsAnew later := by
  have apart := c.sound.apart_past vacant outside
  have ids : r.past.ids ⊆ (Session.calls ds).map (·.1) := by
    intro id past
    obtain ⟨x, hx, rfl⟩ := List.mem_map.mp past
    exact List.mem_map_of_mem (c.has_call (List.mem_filter.mp hx).1)
  refine ⟨c.sound.blank vacant.1, ?_, ?_, ?_, ?_⟩
  · intro d hd id known about
    have nodup := k.nodup_calls
    rw [calls_append, List.map_append] at nodup
    have new : id ∉ r.past.ids := fun past =>
      List.disjoint_of_nodup_append nodup known (ids past)
    have none : d.action.pid? = none := by
      cases ha : d.action <;> rw [ha] at about <;> first | rfl | cases about
    simp [Action.isPast, none, about, new]
  · intro d hd b hb past
    obtain ⟨xs, ys, rfl⟩ := List.append_of_mem hd
    rw [List.append_assoc] at k
    obtain ⟨before, -, -, fits⟩ := k.back
    exact fits.birth b hb ((c.apart before apart ids).still _ past).1
  · rintro xs d ys rfl
    exact (c.done_anew k apart ids).1
  · intro d hd
    obtain ⟨xs, ys, rfl⟩ := List.append_of_mem hd
    exact (c.done_anew k apart ids).2

end ToolHost.Session

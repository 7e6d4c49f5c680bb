import Mathlib
import ToolHost.Proofs.Session.Count

/-!
# Order at a latch

The latch is held exactly as long as one call is inside. The calls in the queue are those that wait
for the latch, in the same order, and a ticket tells how its call stands. Only the head of the queue
can have leave to enter, and only while nobody is inside; so calls come in in the order in which
they queued up.
-/
namespace ToolHost.Session

/-! ## The latch and its queue -/

/-- A ticket tells whether its call sleeps. -/
def Ticket.Fits : Ticket → Wake → Prop
  | .pending, w => w = .asleep
  | .granted, w => w ≠ .asleep
  | .withdrawn, w => w = .interrupted

/-- A call stands in the queue with its ticket. -/
structure Stands (c : Caller) (w : CallId × Ticket) : Prop where
  id : w.1 = c.id
  ticket : w.2.Fits c.wake

/-- A latch with the calls that wait for it and the number of those inside. -/
structure Latch.Orderly (l : Latch) (waiting : List Caller) (inside : Nat) : Prop where
  inside : inside = if l.isHeld then 1 else 0
  queue : List.Forall₂ Stands waiting l.queue
  rest : ∀ w ∈ l.queue.tail, w.2 ≠ .granted
  granted : ∀ w ∈ l.queue, w.2 = .granted → l.isHeld = false

namespace Latch.Orderly

variable {l : Latch} {waiting : List Caller} {n : Nat}

theorem exists_ticket (h : l.Orderly waiting n) {c : Caller} (mem : c ∈ waiting) :
    ∃ w ∈ l.queue, Stands c w := by
  obtain ⟨i, hi, rfl⟩ := List.getElem_of_mem mem
  have hj : i < l.queue.length := h.queue.length_eq ▸ hi
  exact ⟨_, List.getElem_mem hj, h.queue.get hi hj⟩

/-- A ticket that gives leave to enter is the first of the queue. -/
theorem head?_of_granted (h : l.Orderly waiting n) {w : CallId × Ticket} (mem : w ∈ l.queue)
    (granted : w.2 = .granted) : l.queue.head? = some w := by
  have hr := h.rest
  cases hq : l.queue with
  | nil => rw [hq] at mem; cases mem
  | cons x rest =>
    rw [hq] at mem hr
    rcases List.mem_cons.mp mem with rfl | mem
    · rfl
    · exact absurd granted (hr w mem)

/-- A call that was woken has leave to enter. -/
theorem of_woken (h : l.Orderly waiting n) {c : Caller} (mem : c ∈ waiting)
    (woken : c.wake = .woken) : l.isHeld = false ∧ ∃ w, l.queue.head? = some w ∧ w.1 = c.id ∧ w.2 = .granted := by
  obtain ⟨w, hw, hs⟩ := h.exists_ticket mem
  have hg : w.2 = .granted := by
    have hf := hs.ticket
    rw [woken] at hf
    cases hx : w.2 with
    | pending => rw [hx] at hf; cases hf
    | granted => rfl
    | withdrawn => rw [hx] at hf; cases hf
  exact ⟨h.granted w hw hg, w, h.head?_of_granted hw hg, hs.id, hg⟩

theorem isHeld_of_inside (h : l.Orderly waiting (n + 1)) : l.isHeld = true ∧ n = 0 := by
  have hi := h.inside
  split at hi
  · rename_i hh
    exact ⟨hh, by omega⟩
  · cases hi

theorem enter (h : l.Orderly waiting n) (free : l.isHeld = false)
    (calm : ∀ w ∈ l.queue, w.2 ≠ .granted) : l.enter.Orderly waiting (n + 1) where
  inside := by
    have hi := h.inside
    rw [free] at hi
    simp only [Bool.false_eq_true, if_false] at hi
    simp [Latch.enter, hi]
  queue := h.queue
  rest := h.rest
  granted w hw hg := absurd hg (calm w hw)

theorem wait (h : l.Orderly waiting n) {c : Caller} (asleep : c.wake = .asleep) :
    (l.wait c.id).Orderly (waiting ++ [c]) n where
  inside := h.inside
  queue := List.rel_append h.queue (.cons ⟨rfl, asleep⟩ .nil)
  rest w hw := by
    have hm : w ∈ l.queue.tail ∨ w = (c.id, .pending) := by
      change w ∈ (l.queue ++ [(c.id, Ticket.pending)]).tail at hw
      cases hq : l.queue with
      | nil => rw [hq] at hw; cases hw
      | cons x rest => rw [hq] at hw; simpa using hw
    rcases hm with hm | rfl
    · exact h.rest w hm
    · nofun
  granted w hw hg := by
    rcases List.mem_append.mp hw with hm | hm
    · exact h.granted w hm hg
    · rw [List.mem_singleton.mp hm] at hg
      cases hg

theorem tail_filter {α : Type} (p : α → Bool) (xs : List α) {x : α} (h : x ∈ (xs.filter p).tail) :
    x ∈ xs.tail := by
  cases xs with
  | nil => cases h
  | cons y rest =>
    rw [List.filter_cons] at h
    split at h
    · exact (List.mem_filter.mp h).1
    · exact (List.mem_filter.mp (List.mem_of_mem_tail h)).1

theorem quit (h : l.Orderly waiting n) (id : CallId) :
    (l.quit id).Orderly (waiting.filter (·.id != id)) n where
  inside := h.inside
  queue := by
    have hq := h.queue
    simp only [Latch.quit]
    generalize l.queue = ws at hq
    clear h
    induction hq with
    | nil => exact .nil
    | cons hs _ ih =>
      rename_i c w cs ws
      rw [List.filter_cons, List.filter_cons, hs.id]
      split
      · exact .cons hs ih
      · exact ih
  rest w hw := h.rest w (tail_filter _ _ hw)
  granted w hw hg := h.granted w (List.mem_filter.mp hw).1 hg

/-- When the call that has leave to enter leaves the queue, nobody else has. -/
theorem quit_calm (h : l.Orderly waiting n) {c : Caller} (mem : c ∈ waiting)
    (woken : c.wake = .woken) : ∀ w ∈ (l.quit c.id).queue, w.2 ≠ .granted := by
  intro w hw hg
  obtain ⟨hm, hne⟩ := List.mem_filter.mp hw
  obtain ⟨_, x, hx, hid, _⟩ := h.of_woken mem woken
  have hy := h.head?_of_granted hm hg
  rw [hx] at hy
  cases hy
  simp [hid] at hne

theorem invite (h : l.Orderly waiting n) (nodup : (waiting.map (·.id)).Nodup)
    (free : l.isHeld = false) : l.invite.1.Orderly (wakeHead waiting l.invite.2) n := by
  unfold Latch.invite
  split
  · rename_i id rest hq
    have hf := h.queue
    have hr := h.rest
    rw [hq] at hf hr
    obtain ⟨c, cs, hc, hcs, rfl⟩ := List.forall₂_cons_right_iff.mp hf
    have hcid : id = c.id := hc.id
    rw [List.map_cons, List.nodup_cons] at nodup
    have others : ∀ d ∈ cs, d.id ≠ id := by
      intro d hd e
      exact nodup.1 (hcid ▸ e ▸ List.mem_map_of_mem hd)
    have same : (cs.map fun d => if d.id = id then { d with wake := Wake.woken } else d) = cs := by
      conv_rhs => rw [← List.map_id cs]
      apply List.map_congr_left
      intro d hd
      simp [others d hd]
    have eq : wakeHead (c :: cs) (some id) = { c with wake := .woken } :: cs := by
      simp only [wakeHead, List.map_cons, hcid.symm, if_true]
      rw [same]
    rw [eq]
    refine ⟨h.inside, .cons ⟨hcid, by simp [Ticket.Fits]⟩ hcs, hr, fun _ _ _ => free⟩
  · exact h

theorem release (h : l.Orderly waiting (n + 1)) (nodup : (waiting.map (·.id)).Nodup) :
    l.release.1.Orderly (wakeHead waiting l.release.2) n := by
  obtain ⟨_, hn⟩ := h.isHeld_of_inside
  have ho : ({ l with isHeld := false } : Latch).Orderly waiting n :=
    ⟨by simp [hn], h.queue, h.rest, fun _ _ _ => rfl⟩
  exact ho.invite nodup rfl

theorem open_calm (open_ : l.isOpen) : l.isHeld = false ∧ ∀ w ∈ l.queue, w.2 ≠ .granted := by
  unfold isOpen at open_
  simp only [Bool.and_eq_true, Bool.not_eq_true', List.all_eq_true, decide_eq_true_eq] at open_
  refine ⟨open_.1, ?_⟩
  intro w hw hg
  have := open_.2 w hw
  rw [hg] at this
  cases this

end Latch.Orderly

/-! ## Who waits and who is inside -/

def Caller.isQueued (c : Caller) : Bool := c.phase = .queued

def Caller.isInside (c : Caller) : Bool := c.latch.isSome && c.phase ≠ .queued

def Focus.insiders : Focus → Nat
  | .inside _ _ => 1
  | _ => 0

/-- The latch that calls go to now. One that is still to be made is open. -/
def Room.gate (r : Room) : Latch :=
  match r.latch with
  | some n => r.latchAt n
  | none => {}

/-- The calls that wait for the latch, in the order in which they came. -/
def Room.waiting (r : Room) : List Caller := r.callers.filter Caller.isQueued

/-- How many calls wait inside the latch. -/
def Room.insiders (r : Room) : Nat := r.places.countP Caller.isInside

/-- One call is inside as long as the latch is held, and the queue is in order. -/
def Orderly (f : Focus) (r : Room) : Prop := r.gate.Orderly r.waiting (r.insiders + f.insiders)

namespace Room

theorem gate_eq {r : Room} {n : Nat} (h : r.latch = some n) : r.gate = r.latchAt n := by
  simp [gate, h]

theorem gate_congr {r q : Room} (latches : q.latches = r.latches) (latch : q.latch = r.latch) :
    q.gate = r.gate := by
  unfold gate latchAt
  rw [latches, latch]

theorem gate_setLatch {r q : Room} {n : Nat} {l : Latch} (numbered : Numbered r)
    (latch : r.latch = some n) (latches : q.latches = (r.setLatch n l).latches)
    (same : q.latch = some n) : q.gate = l := by
  have hq : q.gate = (r.setLatch n l).latchAt n := by
    rw [gate_eq same]
    unfold latchAt
    rw [latches]
  rw [hq]
  exact r.latchAt_setLatch_self l (numbered.latch_mem latch)

/-- A latch that is made is open. -/
theorem gate_knock {r : Room} (h : Numbered r) : r.knock.gate = r.gate := by
  have hk : r.knock.latch = some r.latchNumber := rfl
  rw [gate_eq hk]
  unfold latchAt
  rw [latches_knock]
  cases hl : r.latch with
  | some n => simp [latchNumber, gate, hl, latchAt]
  | none =>
    have absent : r.latches.lookup r.latches.length = none := by
      rw [List.lookup_eq_none_iff]
      intro p hp
      have hm : p.1 ∈ r.latches.map (·.1) := List.mem_map_of_mem hp
      rw [h.numbers, List.mem_range] at hm
      have : r.latches.length ≠ p.1 := by omega
      simpa using this
    simp [latchNumber, gate, hl, List.lookup_append, absent]

theorem insiders_congr {r q : Room} (places : q.places = r.places) : q.insiders = r.insiders := by
  rw [insiders, places, insiders]

theorem insiders_append {r q : Room} {c : Caller} (places : q.places = r.places ++ [c]) :
    q.insiders = r.insiders + if c.isInside then 1 else 0 := by
  rw [insiders, places, List.countP_append]
  simp [insiders]

theorem insiders_unpark {r q : Room} (nodup : r.ids.Nodup) {c : Caller} (mem : c ∈ r.callers)
    (places : q.places = r.places.filter (·.id != c.id)) :
    r.insiders = q.insiders + if c.isInside then 1 else 0 := by
  have hp := ((perm_of_mem nodup mem).map Caller.place).countP_eq Caller.isInside
  have hq : (r.callers.filter (·.id != c.id)).map Caller.place = q.places := by
    rw [places, Room.places, List.filter_map]
    rfl
  rw [List.map_cons, List.countP_cons, hq] at hp
  exact hp

theorem mem_waiting {r : Room} {c : Caller} :
    c ∈ r.waiting ↔ c ∈ r.callers ∧ c.phase = .queued := by
  simp [waiting, Caller.isQueued]

theorem waiting_append {r q : Room} {c : Caller} (callers : q.callers = r.callers ++ [c]) :
    q.waiting = if c.phase = .queued then r.waiting ++ [c] else r.waiting := by
  rw [waiting, callers, List.filter_append]
  by_cases h : c.phase = .queued <;> simp [Caller.isQueued, h, waiting]

theorem waiting_unpark (r : Room) (id : CallId) :
    ({ r with callers := r.callers.filter (·.id != id) } : Room).waiting =
      r.waiting.filter (·.id != id) := by
  simp only [waiting, List.filter_filter]
  congr 1
  funext c
  exact Bool.and_comm _ _

theorem waiting_filter {r : Room} (nodup : r.ids.Nodup) {c : Caller} (mem : c ∈ r.callers)
    (phase : c.phase ≠ .queued) : r.waiting.filter (·.id != c.id) = r.waiting := by
  apply List.filter_eq_self.mpr
  intro d hd
  obtain ⟨hd, hp⟩ := mem_waiting.mp hd
  have : d.id ≠ c.id := by
    intro e
    rw [List.inj_on_of_nodup_map nodup hd mem e] at hp
    exact phase hp
  simpa using this

theorem nodup_waiting {r : Room} (nodup : r.ids.Nodup) : (r.waiting.map (·.id)).Nodup :=
  (List.filter_sublist.map _).nodup nodup

end Room

/-- What happens on the side wakes nobody in the queue. -/
theorem Drift.waiting {t u : Turn} (h : Drift t u) : u.room.waiting = t.room.waiting := by
  unfold Room.waiting
  generalize t.room.callers = cs, u.room.callers = ds, h.stirs = hs
  induction hs with
  | nil => rfl
  | cons hc hcs ih =>
    rename_i c d cs ds
    rw [List.filter_cons, List.filter_cons, ih]
    rcases hc with rfl | ⟨_, rfl, hm⟩
    · rfl
    · have : c.isQueued = false := by
        unfold Caller.isQueued
        cases hp : c.phase with
        | queued => rw [hp] at hm; cases hm
        | _ => rfl
      have hq : ({ c with wake := .woken } : Caller).isQueued = false := this
      rw [this, hq]
      rfl

theorem Turn.waiting_invite (t : Turn) (n : Nat) (l : Latch × Option CallId) :
    (t.invite n l).room.waiting = wakeHead t.room.waiting l.2 := by
  unfold Room.waiting
  rw [Turn.callers_invite]
  cases l.2 with
  | none => rfl
  | some id =>
    simp only [wakeHead, List.filter_map]
    congr 2
    funext c
    by_cases hc : c.id = id <;> simp [hc, Caller.isQueued]

section Waiting

variable (t : Turn)

theorem Turn.waiting_ids_invite (n : Nat) (l : Latch × Option CallId) :
    (t.invite n l).room.waiting.map (·.id) = t.room.waiting.map (·.id) := by
  rw [waiting_invite, map_id_wakeHead]

theorem Turn.waiting_wait (v : Visit) : (t.wait v).room.waiting =
    t.room.waiting ++ [⟨v.id, v.request, some v.latch, .queued, .asleep⟩] :=
  (Room.waiting_append rfl).trans (if_pos rfl)

theorem Turn.waiting_parkIn (v : Visit) {phase : Phase} (h : phase ≠ .queued) (wake : Wake) :
    (t.parkIn v phase wake).room.waiting = t.room.waiting :=
  (Room.waiting_append rfl).trans (if_neg h)

theorem Turn.waiting_block (id : CallId) (line : String) :
    (t.park ⟨id, .send line, none, .draining, .asleep⟩).room.waiting = t.room.waiting :=
  (Room.waiting_append rfl).trans (if_neg Phase.noConfusion)

theorem Turn.waiting_unpark (id : CallId) :
    (t.unpark id).room.waiting = t.room.waiting.filter (·.id != id) := Room.waiting_unpark _ _

variable {t}

/-- A call that does not wait for the latch goes on, and the queue stays as it is. -/
theorem Turn.waiting_unpark_ne (nodup : t.room.ids.Nodup) {c : Caller} (mem : c ∈ t.room.callers)
    (phase : c.phase ≠ .queued) : (t.unpark c.id).room.waiting = t.room.waiting := by
  rw [waiting_unpark, Room.waiting_filter nodup mem phase]

end Waiting

/-! ## Small steps -/

namespace Orderly

variable {f g : Focus} {r q : Room}

theorem keep (h : Orderly f r) (gate : q.gate = r.gate) (waiting : q.waiting = r.waiting)
    (insiders : q.insiders + g.insiders = r.insiders + f.insiders) : Orderly g q := by
  unfold Orderly
  rw [gate, waiting, insiders]
  exact h

/-- A call that waits neither for the latch nor inside goes on, or one that waits inside does. -/
theorem unpark (h : Orderly .idle r) (nodup : r.ids.Nodup) {c : Caller} (mem : c ∈ r.callers)
    (phase : c.phase ≠ .queued) (inside : g.insiders = if c.isInside then 1 else 0) :
    Orderly g { r with callers := r.callers.filter (·.id != c.id) } := by
  refine h.keep rfl (Turn.waiting_unpark_ne (t := { room := r }) nodup mem phase) ?_
  · rw [inside, ← Room.insiders_unpark nodup mem]
    · rfl
    · exact (Turn.places_unpark { room := r } c.id)

/-- A call leaves the queue. -/
theorem quit (h : Orderly .idle r) (counted : Counted .idle r) (nodup : r.ids.Nodup) {c : Caller}
    {n : Nat} (mem : c ∈ r.callers) (latch : c.latch = some n) (phase : c.phase = .queued)
    {q : Room} (same : q.latch = r.latch)
    (latches : q.latches = (r.setLatch n ((r.latchAt n).quit c.id)).latches)
    (callers : q.callers = r.callers.filter (·.id != c.id)) :
    q.gate = r.gate.quit c.id ∧ q.gate.Orderly q.waiting q.insiders := by
  have hn : r.latch = some n := counted.same c.place (Room.place_mem mem) n latch
  have hg : q.gate = r.gate.quit c.id := by
    rw [Room.gate_setLatch counted.numbered hn latches (same.trans hn), Room.gate_eq hn]
  have hw : q.waiting = r.waiting.filter (·.id != c.id) := by
    rw [← Room.waiting_unpark, Room.waiting, callers]
    rfl
  have hp : q.places = r.places.filter (·.id != c.id) := by
    rw [← Turn.places_unpark { room := r } c.id, Room.places, callers]
    rfl
  have hi : q.insiders = r.insiders := by
    rw [Room.insiders_unpark nodup mem hp]
    simp [Caller.isInside, phase]
  refine ⟨hg, ?_⟩
  rw [hg, hw, hi]
  exact Latch.Orderly.quit h c.id

/-- A call takes the latch, which is free. -/
theorem take {t : Turn} {v : Visit} (numbered : Numbered t.room)
    (latch : t.room.latch = some v.latch)
    (h : t.room.gate.Orderly t.room.waiting t.room.insiders) (free : t.room.gate.isHeld = false)
    (calm : ∀ w ∈ t.room.gate.queue, w.2 ≠ .granted) {s : Stage} :
    Orderly (.inside v s) (t.take v).room := by
  have hg : (t.take v).room.gate = t.room.gate.enter := by
    rw [Room.gate_eq latch]
    exact Room.gate_setLatch numbered latch rfl latch
  unfold Orderly
  rw [hg]
  exact h.enter free calm

/-- The next call gets leave to enter, or nobody is there who could. -/
theorem invite {t : Turn} {n : Nat} {l : Latch × Option CallId} (numbered : Numbered t.room)
    (latch : t.room.latch = some n) (hg : g.insiders = 0)
    (h : l.1.Orderly (wakeHead t.room.waiting l.2) t.room.insiders) :
    Orderly g (t.invite n l).room := by
  have hgate : (t.invite n l).room.gate = l.1 :=
    Room.gate_setLatch numbered latch (t.latches_invite n l) ((t.latch_invite n l).trans latch)
  unfold Orderly
  rw [hgate, hg, Turn.waiting_invite, Room.insiders_congr (Turn.places_invite t n l)]
  exact h

theorem atRest {i : Option CallId} (h : Orderly f r) (o : f.IsOver i) : Orderly .idle r := by
  cases f with
  | idle => exact h
  | closed _ _ => exact h
  | _ => cases o

end Orderly

/-- Nobody waits at a latch that nobody uses. -/
theorem Placed.nobody {f : Focus} {r : Room} (p : Placed f r)
    (none : r.atLatch = 0) : r.waiting = [] ∧ r.insiders = 0 := by
  have away : ∀ c ∈ r.places, c.latch = .none := by
    intro c hc
    rw [Room.atLatch, List.countP_eq_zero] at none
    simpa using none c hc
  constructor
  · rw [List.eq_nil_iff_forall_not_mem]
    intro c hc
    obtain ⟨hc, hp⟩ := Room.mem_waiting.mp hc
    have hl := away c.place (Room.place_mem hc)
    have hd := (p.suits hc).latch.mp hl
    rw [hp] at hd
    cases hd
  · rw [Room.insiders, List.countP_eq_zero]
    intro c hc
    simp [Caller.isInside, away c hc]

theorem Move.orderly {f g : Focus} {t u : Turn} (m : Move f t g u) (p : Placed f t.room)
    (k : Counted f t.room) (h : Orderly f t.room) : Orderly g u.room := by
  cases m with
  | drift hd _ =>
    exact h.keep (Room.gate_congr hd.latches hd.latch) hd.waiting
      (by rw [Room.insiders_congr hd.places])
  | approach _ => exact h.keep (Room.gate_knock k.numbered) rfl rfl
  | enter ho =>
    have hn := k.visit _ rfl
    rw [← Room.gate_eq hn] at ho
    obtain ⟨free, calm⟩ := Latch.Orderly.open_calm ho
    exact .take k.numbered hn h free calm
  | queue ho =>
    rename_i v
    have hn := k.visit _ rfl
    have hg : (t.wait v).room.gate = t.room.gate.wait v.id := by
      rw [Room.gate_eq hn]
      exact Room.gate_setLatch k.numbered hn rfl hn
    unfold Orderly
    rw [hg, Turn.waiting_wait, Room.insiders_append (Turn.places_wait t v)]
    exact Latch.Orderly.wait (c := ⟨v.id, v.request, some v.latch, .queued, .asleep⟩) h rfl
  | letIn mem latch phase wake =>
    rename_i c n
    obtain ⟨hg, ho⟩ := h.quit k p.nodup mem latch phase
      (q := ((t.unpark c.id).quit (c.visit n)).room) rfl rfl rfl
    have hw : c ∈ t.room.waiting := Room.mem_waiting.mpr ⟨mem, phase⟩
    have hn : t.room.latch = some n := k.same c.place (Room.place_mem mem) n latch
    have hk := k.numbered.keep (q := ((t.unpark c.id).quit (c.visit n)).room)
      (Room.map_fst_setLatch _ _ _) (.inl rfl)
    refine .take (t := (t.unpark c.id).quit (c.visit n)) (v := c.visit n) hk hn ho ?_ ?_
    · rw [hg]
      exact (Latch.Orderly.of_woken h hw wake).1
    · rw [hg]
      exact Latch.Orderly.quit_calm h hw wake
  | retreat mem latch phase wake eq =>
    rename_i u c n
    obtain ⟨_, ho⟩ := h.quit k p.nodup mem latch phase (q := u.room)
      (by rw [eq]; rfl) (by rw [eq]; rfl) (by rw [eq]; rfl)
    have hn : u.room.latch = some n := by
      rw [eq]
      exact k.same c.place (Room.place_mem mem) n latch
    have hk : Numbered u.room := by
      rw [eq]
      exact k.numbered.keep (Room.map_fst_setLatch _ _ _) (.inl rfl)
    have hd : u.room.ids.Nodup := by
      rw [eq]
      exact (List.filter_sublist.map _).nodup p.nodup
    rw [← Room.gate_eq hn]
    split
    · exact ho
    · rename_i hf
      exact .invite hk hn rfl (ho.invite (Room.nodup_waiting hd) (by simpa using hf))
  | resume mem latch goesOn awake =>
    rename_i c n s
    have hq := Phase.ne_queued_of_goesOn goesOn
    exact h.unpark p.nodup mem hq (by simp [Focus.insiders, Caller.isInside, latch, hq])
  | pass line => exact h
  | find request recorded live => exact h
  | miss line recorded => exact h
  | pop line recorded => exact h.keep rfl rfl rfl
  | reap hr => exact h
  | clear => exact h
  | park stage asleep =>
    rename_i v s phase wake
    have hq := Phase.ne_queued_of_stage stage
    refine h.keep rfl (t.waiting_parkIn v hq wake) ?_
    rw [Room.insiders_append (Turn.places_parkIn t v phase wake)]
    simp [Caller.isInside, hq, Focus.insiders]
  | giveUp he => exact h
  | adopt dir b fresh => exact h.keep rfl rfl rfl
  | release =>
    rename_i v e
    have hn := k.visit v rfl
    have ho := Latch.Orderly.release h (Room.nodup_waiting p.nodup)
    rw [Room.gate_eq hn] at ho
    exact .invite k.numbered hn rfl ho
  | depart users more => exact h.keep rfl rfl rfl
  | departLast users recorded => exact h.keep rfl rfl rfl
  | dropLatch users recorded latch =>
    obtain ⟨hw, hi⟩ := p.nobody (k.last users)
    have hq : (Room.waiting { t.room with users := .none, latch := .none }) = [] := hw
    have hj : (Room.insiders { t.room with users := .none, latch := .none }) = 0 := hi
    unfold Orderly
    rw [hq, hj]
    exact ⟨rfl, .nil, by nofun, by nofun⟩
  | stumble lacks => exact absurd lacks k.sound
  | direct hn => exact h
  | refuse hs => exact h
  | write live input => exact h
  | block =>
    rename_i id line
    exact h.keep rfl (t.waiting_block id line)
      (Room.insiders_append (r := t.room) (Room.places_append _ _))
  | answer he => exact h
  | finish => exact h
  | drain mem phase he =>
    have latch := (p.suits mem).latch.mpr phase
    exact h.unpark p.nodup mem (by simp [phase]) (by simp [Focus.insiders, Caller.isInside, latch])
  | forsake mem latch =>
    have phase := (p.suits mem).latch.mp latch
    exact h.unpark p.nodup mem (by simp [phase]) (by simp [Focus.insiders, Caller.isInside, latch])

/-! ## Giving up -/

/-- The calls after one of them was told something. -/
def tellAmong (cs : List Caller) (c : Caller) : List Caller :=
  cs.map fun d => if d.id = c.id then c else d

theorem Room.waiting_setCaller {r : Room} (nodup : r.ids.Nodup) {c : Caller}
    (mem : c ∈ r.callers) (w : Wake) :
    (r.setCaller { c with wake := w }).waiting = tellAmong r.waiting { c with wake := w } := by
  simp only [waiting, setCaller, List.filter_map, tellAmong]
  congr 1
  apply List.filter_congr
  intro d hd
  by_cases he : d.id = c.id
  · have : d = c := List.inj_on_of_nodup_map nodup hd mem he
    subst this
    simp [Caller.isQueued]
  · simp [he]

namespace Latch.Orderly

variable {l : Latch} {waiting : List Caller} {n : Nat}

/-- A call that has leave to enter, or gave up before, is told to give up. -/
theorem interrupt (h : l.Orderly waiting n) {c : Caller}
    (awake : c ∈ waiting → c.wake ≠ .asleep) (known : ∀ d ∈ waiting, d.id = c.id → d = c) :
    l.Orderly (tellAmong waiting { c with wake := .interrupted }) n where
  inside := h.inside
  queue := by
    unfold tellAmong
    rw [List.forall₂_map_left_iff]
    refine List.forall₂_iff_get.mpr ⟨h.queue.length_eq, ?_⟩
    intro i hi hj
    have hs := h.queue.get hi hj
    simp only [List.get_eq_getElem] at hs ⊢
    split
    · rename_i he
      have hm : waiting[i] ∈ waiting := List.getElem_mem hi
      have hc := known _ hm he
      rw [hc] at hs hm
      refine ⟨hs.id, ?_⟩
      have hf := hs.ticket
      cases hx : l.queue[i].2 with
      | pending =>
        rw [hx] at hf
        exact absurd hf (awake hm)
      | granted => nofun
      | withdrawn => rfl
    · exact hs
  rest := h.rest
  granted := h.granted

/-- A call that waits for leave to enter gives up. -/
theorem withdraw (h : l.Orderly waiting n) (c : Caller) :
    (l.withdraw c.id).Orderly (tellAmong waiting { c with wake := .interrupted }) n where
  inside := h.inside
  queue := by
    unfold tellAmong Latch.withdraw
    rw [List.forall₂_map_left_iff, List.forall₂_map_right_iff]
    refine List.forall₂_iff_get.mpr ⟨h.queue.length_eq, ?_⟩
    intro i hi hj
    have hs := h.queue.get hi hj
    simp only [List.get_eq_getElem] at hs ⊢
    by_cases he : waiting[i].id = c.id
    · rw [if_pos he, if_pos (hs.id.trans he)]
      exact ⟨rfl, rfl⟩
    · rw [if_neg he, if_neg (hs.id ▸ he)]
      exact hs
  rest w hw := by
    simp only [Latch.withdraw, ← List.map_tail] at hw
    obtain ⟨x, hx, rfl⟩ := List.mem_map.mp hw
    split
    · nofun
    · exact h.rest x hx
  granted w hw hg := by
    obtain ⟨x, hx, rfl⟩ := List.mem_map.mp hw
    split at hg
    · cases hg
    · exact h.granted x hx hg

end Latch.Orderly

theorem cancel_orderly {t : Turn} (id : CallId) (p : Placed .idle t.room)
    (k : Counted .idle t.room) (h : Orderly .idle t.room) : Orderly .idle (t.cancel id).room := by
  unfold Turn.cancel
  split
  · exact h
  · rename_i c hc
    have mem := Room.mem_of_caller? hc
    have told := Room.waiting_setCaller p.nodup mem .interrupted
    have still := Room.insiders_congr (Spares.tell t p.nodup mem .interrupted).places
    have awake (ha : c.phase = .queued → c.wake ≠ .asleep) :
        Orderly .idle (t.room.setCaller { c with wake := .interrupted }) := by
      unfold Orderly
      rw [told, still]
      refine Latch.Orderly.interrupt h (fun hw => ha (Room.mem_waiting.mp hw).2) ?_
      intro d hd e
      exact List.inj_on_of_nodup_map p.nodup (Room.mem_waiting.mp hd).1 mem e
    split
    · exact h
    · rename_i hp ha
      obtain ⟨n, hn⟩ : ∃ n, c.latch = some n := by
        cases hl : c.latch with
        | some n => exact ⟨n, rfl⟩
        | none =>
          have hd := (p.suits mem).latch.mp hl
          rw [hp] at hd
          cases hd
      have hr : t.room.latch = some n := k.same c.place (Room.place_mem mem) n hn
      have hw : (t.room.gate.withdraw c.id).Orderly
          (tellAmong t.room.waiting { c with wake := .interrupted }) (t.room.insiders + 0) :=
        Latch.Orderly.withdraw h c
      rw [← told, Room.gate_eq hr, ← Room.gate_setLatch k.numbered hr rfl
        (q := (t.room.setCaller { c with wake := .interrupted }).setLatch n
          ((t.room.latchAt n).withdraw c.id)) hr] at hw
      rw [← still] at hw
      have hid : c.id = id := Room.id_of_caller? hc
      have hg : c.latch.getD 0 = n := by rw [hn]; rfl
      rw [hg, ← hid]
      exact hw
    · rename_i hq
      exact awake fun e => (hq e).elim
    · rename_i ha
      exact awake ha

end ToolHost.Session

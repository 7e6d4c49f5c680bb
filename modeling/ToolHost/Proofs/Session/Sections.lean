import Mathlib
import ToolHost.Proofs.Session.Processes

/-!
# Calls inside, one after another

What happens at the latch of a name can be read off what has happened: calls come, are let in and
leave. Read in order, no call is let in while another one is inside, and each finds recorded what
the one before left; as long as nobody gives up, they are let in in the order in which they came.
-/
namespace ToolHost

/-- What happens at a latch. -/
inductive Passage
  | approached (call : CallId)
  | entered (call : CallId) (recorded : Option Pid)
  | left (call : CallId) (recorded : Option Pid)
  deriving DecidableEq, Repr

/-- What a happening is at the latch of a name. -/
def Happening.passage? (name : SessionName) : Happening → Option Passage
  | .approached n id => if n = name then some (.approached id) else none
  | .entered n id recorded => if n = name then some (.entered id recorded) else none
  | .left n id recorded => if n = name then some (.left id recorded) else none
  | _ => none

/-- What has happened at the latch of a name, the latest first. -/
def passages (name : SessionName) (xs : List Happening) : List Passage :=
  xs.filterMap (·.passage? name)

/-- Who is inside, and what the last call that left has left recorded. -/
structure Occupancy where
  inside : Option CallId := none
  recorded : Option Pid := none
  deriving DecidableEq, Repr

/-- What follows from a passage; nothing if it should not be. -/
def Occupancy.next (o : Occupancy) : Passage → Option Occupancy
  | .approached _ => some o
  | .entered id recorded =>
    if o.inside = none ∧ recorded = o.recorded then some { o with inside := some id } else none
  | .left id recorded => if o.inside = some id then some ⟨none, recorded⟩ else none

/-- What follows from all passages; nothing if there is one that should not be. -/
def occupancy : List Passage → Option Occupancy
  | [] => some {}
  | p :: ps => (occupancy ps).bind (·.next p)

/-- The calls that came to the latch, in order. -/
def arrivals (ps : List Passage) : List CallId :=
  ps.reverse.filterMap fun | .approached id => some id | _ => none

/-- The calls that were let in, in order. -/
def entries (ps : List Passage) : List CallId :=
  ps.reverse.filterMap fun | .entered id _ => some id | _ => none

@[simp] theorem passages_append (name : SessionName) (xs ys : List Happening) :
    passages name (xs ++ ys) = passages name xs ++ passages name ys := List.filterMap_append

theorem Happening.passage?_of_isAside (name : SessionName) {x : Happening} (h : x.isAside) :
    x.passage? name = none := by
  cases x with
  | approached _ _ => cases h
  | entered _ _ _ => cases h
  | left _ _ _ => cases h
  | _ => rfl

theorem passages_of_aside (name : SessionName) {xs : List Happening} (h : ∀ x ∈ xs, x.isAside) :
    passages name xs = [] := by
  unfold passages
  rw [List.filterMap_eq_nil_iff]
  exact fun x hx => x.passage?_of_isAside name (h x hx)

@[simp] theorem arrivals_cons (p : Passage) (ps : List Passage) :
    arrivals (p :: ps) = arrivals ps ++ match p with | .approached id => [id] | _ => [] := by
  cases p <;> simp [arrivals]

@[simp] theorem entries_cons (p : Passage) (ps : List Passage) :
    entries (p :: ps) = entries ps ++ match p with | .entered id _ => [id] | _ => [] := by
  cases p <;> simp [entries]

namespace Session

/-! ## Who is inside -/

def Focus.inside? : Focus → Option CallId
  | .inside v _ => some v.id
  | _ => none

def Focus.before? : Focus → Option CallId
  | .before v => some v.id
  | _ => none

/-- The calls that wait inside the latch. -/
def Room.inmates (r : Room) : List CallId := (r.places.filter Caller.isInside).map (·.id)

namespace Room

theorem length_inmates (r : Room) : r.inmates.length = r.insiders := by
  rw [inmates, List.length_map, insiders, List.countP_eq_length_filter]

theorem inmates_eq_nil {r : Room} (h : r.insiders = 0) : r.inmates = [] :=
  List.eq_nil_of_length_eq_zero (r.length_inmates.trans h)

theorem inmates_congr {r q : Room} (places : q.places = r.places) : q.inmates = r.inmates := by
  rw [inmates, places, inmates]

theorem inmates_append {r q : Room} {c : Caller} (places : q.places = r.places ++ [c]) :
    q.inmates = r.inmates ++ if c.isInside then [c.id] else [] := by
  rw [inmates, places, List.filter_append, List.map_append]
  by_cases h : c.isInside <;> simp [h, inmates]

theorem inmates_unpark {r q : Room} {id : CallId}
    (places : q.places = r.places.filter (·.id != id)) :
    q.inmates = r.inmates.filter (· != id) := by
  rw [inmates, places, inmates, List.filter_map, List.filter_filter, List.filter_filter]
  congr 2
  funext c
  exact Bool.and_comm _ _

theorem inmates_unpark_ne {r q : Room} (nodup : r.ids.Nodup) {c : Caller} (mem : c ∈ r.callers)
    (out : c.isInside = false) (places : q.places = r.places.filter (·.id != c.id)) :
    q.inmates = r.inmates := by
  rw [inmates_unpark places]
  apply List.filter_eq_self.mpr
  intro id hid
  obtain ⟨d, hd, rfl⟩ := List.mem_map.mp hid
  obtain ⟨hd, hi⟩ := List.mem_filter.mp hd
  obtain ⟨e, he, rfl⟩ := List.mem_map.mp hd
  have hne : e.id ≠ c.id := by
    intro h
    have : e = c := List.inj_on_of_nodup_map nodup he mem h
    rw [this] at hi
    change c.isInside = true at hi
    rw [out] at hi
    cases hi
  simpa using hne

end Room

/-- A call that waits inside is the only one. -/
theorem Sound.inmates_eq {r : Room} (h : Sound .idle r) {c : Caller} (mem : c ∈ r.callers)
    (inside : c.isInside) : r.inmates = [c.id] := by
  have hm : c.id ∈ r.inmates := by
    refine List.mem_map.mpr ⟨c.place, List.mem_filter.mpr ⟨Room.place_mem mem, inside⟩, rfl⟩
  have hl : r.inmates.length ≤ 1 := by
    have hi := h.orderly.inside
    rw [r.length_inmates]
    split at hi <;> simp [Focus.insiders] at hi <;> omega
  obtain ⟨x, hx⟩ := List.length_eq_one_iff.mp (le_antisymm hl (List.length_pos_of_mem hm))
  rw [hx] at hm ⊢
  rw [List.mem_singleton.mp hm]

/-- What the passages tell agrees with the room. -/
structure Passed (name : SessionName) (f : Focus) (r : Room) (ps : List Passage) : Prop where
  name : r.name = name
  occupied : ∃ o, occupancy ps = some o ∧ o.inside.toList = f.inside?.toList ++ r.inmates ∧
    (o.inside = none → o.recorded = r.recorded)
  served : arrivals ps = entries ps ++ r.waiting.map (·.id) ++ f.before?.toList

namespace Passed

variable {name : SessionName} {f g : Focus} {r q : Room} {ps : List Passage}

/-- Nothing happens at the latch. A call inside may change the record. -/
theorem keep (h : Passed name f r ps) (same : q.name = r.name)
    (inside : g.inside?.toList ++ q.inmates = f.inside?.toList ++ r.inmates)
    (recorded : q.recorded = r.recorded ∨ f.inside? ≠ none)
    (waiting : q.waiting.map (·.id) ++ g.before?.toList =
      r.waiting.map (·.id) ++ f.before?.toList) :
    Passed name g q ps where
  name := same.trans h.name
  occupied := by
    obtain ⟨o, ho, hi, hr⟩ := h.occupied
    refine ⟨o, ho, hi.trans inside.symm, ?_⟩
    intro hn
    rcases recorded with e | e
    · rw [e]
      exact hr hn
    · obtain ⟨id, hid⟩ := Option.ne_none_iff_exists'.mp e
      rw [hn, hid] at hi
      cases hi
  served := by rw [h.served, List.append_assoc, List.append_assoc, waiting]

/-- A call comes to the latch. -/
theorem approach {id : CallId} {request : Request} (h : Passed name (.calling id request) r ps)
    {v : Visit} (visit : v.id = id) (same : q.name = r.name) (places : q.inmates = r.inmates)
    (recorded : q.recorded = r.recorded) (waiting : q.waiting = r.waiting) :
    Passed name (.before v) q (.approached id :: ps) where
  name := same.trans h.name
  occupied := by
    obtain ⟨o, ho, hi, hr⟩ := h.occupied
    refine ⟨o, by simp [occupancy, ho, Occupancy.next], ?_, ?_⟩
    · rw [places]
      exact hi
    · rw [recorded]
      exact hr
  served := by
    have hs := h.served
    rw [waiting]
    simp [hs, Focus.before?, visit]

/-- A call is let in. -/
theorem enter (h : Passed name f r ps) (same : q.name = r.name) (out : f.inside? = none)
    (free : r.inmates = []) (places : q.inmates = [])
    {v : Visit} {s : Stage}
    (waiting : r.waiting.map (·.id) ++ f.before?.toList = v.id :: q.waiting.map (·.id)) :
    Passed name (.inside v s) q (.entered v.id r.recorded :: ps) where
  name := same.trans h.name
  occupied := by
    obtain ⟨o, ho, hi, hr⟩ := h.occupied
    have hn : o.inside = none := by
      rw [out, free] at hi
      cases hx : o.inside with
      | none => rfl
      | some id => rw [hx] at hi; cases hi
    refine ⟨{ o with inside := some v.id }, ?_, ?_, nofun⟩
    · simp [occupancy, ho, Occupancy.next, hn, hr hn]
    · rw [places]
      rfl
  served := by
    have hs := h.served
    rw [List.append_assoc, waiting] at hs
    simp [hs, Focus.before?]

/-- The call that is inside leaves. -/
theorem leave {v : Visit} {s : Stage} (h : Passed name (.inside v s) r ps)
    (same : q.name = r.name) (out : g.inside? = none) (free : q.inmates = [])
    (recorded : q.recorded = r.recorded) (before : g.before? = none)
    (waiting : q.waiting.map (·.id) = r.waiting.map (·.id)) :
    Passed name g q (.left v.id r.recorded :: ps) where
  name := same.trans h.name
  occupied := by
    obtain ⟨o, ho, hi, _⟩ := h.occupied
    have hn : o.inside = some v.id := by
      cases hx : o.inside with
      | none => simp [hx, Focus.inside?] at hi
      | some id =>
        rw [hx] at hi
        exact congrArg some (List.cons.inj hi).1
    refine ⟨⟨none, r.recorded⟩, ?_, ?_, fun _ => recorded.symm⟩
    · simp [occupancy, ho, Occupancy.next, hn]
    · rw [out, free]
      rfl
  served := by
    have hs := h.served
    rw [waiting, before]
    simpa [Focus.before?] using hs

end Passed

/-- An open latch has an empty queue as long as nobody gives up. -/
theorem Tidy.waiting_of_open {f : Focus} {r : Room} (h : Tidy f r) (s : Sound f r)
    (open_ : r.gate.isOpen) : r.waiting = [] := by
  rw [List.eq_nil_iff_forall_not_mem]
  intro c hc
  obtain ⟨w, hw, hs⟩ := Latch.Orderly.exists_ticket s.orderly hc
  unfold Latch.isOpen at open_
  rw [Bool.and_eq_true, List.all_eq_true] at open_
  have hx : w.2 = .withdrawn := by simpa using open_.2 w hw
  have ht := hs.ticket
  rw [hx] at ht
  exact h.calm c (Room.mem_waiting.mp hc).1 ht

/-- A call that was woken in the queue is at its head. -/
theorem Sound.waiting_of_woken {f : Focus} {r : Room} (h : Sound f r) {c : Caller}
    (mem : c ∈ r.callers) (phase : c.phase = .queued) (woken : c.wake = .woken) :
    r.waiting.map (·.id) = c.id :: (r.waiting.filter (·.id != c.id)).map (·.id) := by
  have hw := Room.mem_waiting.mpr ⟨mem, phase⟩
  obtain ⟨_, w, hx, hid, _⟩ := Latch.Orderly.of_woken h.orderly hw woken
  have hq := h.orderly.queue
  have hd := Room.nodup_waiting h.placed.nodup
  cases hws : r.waiting with
  | nil => rw [hws] at hw; cases hw
  | cons d rest =>
    rw [hws] at hq hd
    obtain ⟨x, xs, hs, _, he⟩ := List.forall₂_cons_left_iff.mp hq
    rw [he] at hx
    have hxw : x = w := Option.some.inj hx
    have hdc : d.id = c.id := by rw [← hs.id, hxw, hid]
    rw [List.map_cons, List.nodup_cons] at hd
    have others : rest.filter (·.id != c.id) = rest := by
      apply List.filter_eq_self.mpr
      intro e he
      have : e.id ≠ c.id := fun h => hd.1 (hdc ▸ h ▸ List.mem_map_of_mem he)
      simpa using this
    simp [hdc, others]

/-- A call that waits neither for the latch nor inside goes on and ends. -/
theorem Passed.outside {name : SessionName} {t : Turn} {ps : List Passage}
    (h : Passed name .idle t.room ps) (s : Sound .idle t.room) {c : Caller}
    (mem : c ∈ t.room.callers) (phase : c.phase = .draining) (latch : c.latch = none) :
    Passed name (.closed c.id c.request) (t.unpark c.id).room ps := by
  have hi := Room.inmates_unpark_ne s.placed.nodup mem (by simp [Caller.isInside, latch])
    (t.places_unpark c.id)
  have hw := Turn.waiting_unpark_ne s.placed.nodup mem (by simp [phase])
  exact h.keep rfl hi (.inl rfl) (congrArg (fun cs => cs.map Caller.id ++ []) hw)

theorem Sound.inmates_of_free {f : Focus} {r : Room} (h : Sound f r)
    (free : r.gate.isHeld = false) : r.inmates = [] := Room.inmates_eq_nil (h.insiders_of_free free)

theorem Move.passed {name : SessionName} {old : List Passage} {f g : Focus} {t u : Turn}
    (m : Move f t g u) (s : Sound f t.room) (k : Tidy f t.room)
    (h : Passed name f t.room (passages name t.trace ++ old)) :
    Passed name g u.room (passages name u.trace ++ old) := by
  cases m with
  | drift hd _ =>
    obtain ⟨xs, hx, ha⟩ := hd.trace
    rw [hx, passages_append, passages_of_aside name ha, List.nil_append]
    exact h.keep hd.name (by rw [Room.inmates_congr hd.places]) (.inl hd.recorded)
      (by rw [hd.waiting])
  | approach _ =>
    rename_i id request hl
    have hp : passages name (.approached t.room.name id :: t.trace) =
        .approached id :: passages name t.trace := by simp [passages, Happening.passage?, h.name]
    change Passed name _ _ (passages name (.approached t.room.name id :: t.trace) ++ old)
    rw [hp]
    exact h.approach rfl rfl rfl rfl rfl
  | enter ho =>
    rename_i v
    rw [← Room.gate_eq (s.counted.visit _ rfl)] at ho
    have hw := k.waiting_of_open s ho
    have hn := s.inmates_of_free (Latch.Orderly.open_calm ho).1
    have hp : passages name (.entered t.room.name v.id t.room.recorded :: t.trace) =
        .entered v.id t.room.recorded :: passages name t.trace := by
      simp [passages, Happening.passage?, h.name]
    change Passed name _ _
      (passages name (.entered t.room.name v.id t.room.recorded :: t.trace) ++ _)
    rw [hp]
    refine h.enter (q := (t.take v).room) rfl rfl hn hn ?_
    change _ = v.id :: t.room.waiting.map (·.id)
    rw [hw]
    rfl
  | queue ho =>
    rename_i v
    refine h.keep rfl ?_ (.inl rfl) ?_
    · rw [Room.inmates_append (Turn.places_wait t v)]
      simp [Caller.isInside, Focus.inside?]
    · rw [Turn.waiting_wait]
      simp [Focus.before?]
  | letIn mem latch phase wake =>
    rename_i c n
    have hw := Room.mem_waiting.mpr ⟨mem, phase⟩
    have hn := s.inmates_of_free (Latch.Orderly.of_woken s.orderly hw wake).1
    have hp : passages name (.entered t.room.name c.id t.room.recorded :: t.trace) =
        .entered c.id t.room.recorded :: passages name t.trace := by
      simp [passages, Happening.passage?, h.name]
    change Passed name _ _
      (passages name (.entered t.room.name c.id t.room.recorded :: t.trace) ++ _)
    rw [hp]
    refine h.enter (q := (((t.unpark c.id).quit (c.visit n)).take (c.visit n)).room)
      (v := c.visit n) rfl rfl hn ?_ ?_
    · have hq := Room.inmates_unpark (t.places_unpark c.id)
      rw [hn] at hq
      exact hq
    · change t.room.waiting.map (·.id) ++ [] = c.id :: (t.unpark c.id).room.waiting.map (·.id)
      rw [Turn.waiting_unpark, List.append_nil]
      exact s.waiting_of_woken mem phase wake
  | retreat mem latch phase wake eq => exact absurd wake (k.calm _ mem)
  | resume mem latch goesOn awake =>
    rename_i c n st
    have hq := Phase.ne_queued_of_goesOn goesOn
    have hi := s.inmates_eq mem (by simp [Caller.isInside, latch, hq])
    refine h.keep rfl ?_ (.inl rfl) ?_
    · rw [Room.inmates_unpark (t.places_unpark c.id), hi]
      simp [Focus.inside?, Caller.visit]
    · exact congrArg (fun cs => cs.map Caller.id ++ []) (Turn.waiting_unpark_ne s.placed.nodup mem hq)
  | pass line => exact h.keep rfl rfl (.inl rfl) rfl
  | find request recorded live => exact h.keep rfl rfl (.inl rfl) rfl
  | miss line recorded => exact h.keep rfl rfl (.inl rfl) rfl
  | pop line recorded => exact h.keep rfl rfl (.inr (Option.some_ne_none _)) rfl
  | reap hr => exact h.keep rfl rfl (.inl rfl) rfl
  | clear => exact h.keep rfl rfl (.inl rfl) rfl
  | park stage asleep =>
    rename_i v st phase wake
    have hq := Phase.ne_queued_of_stage stage
    refine h.keep rfl ?_ (.inl rfl) ?_
    · rw [Room.inmates_append (Turn.places_parkIn t v phase wake), Room.inmates_eq_nil s.alone.2]
      simp [Caller.isInside, hq, Focus.inside?]
    · rw [t.waiting_parkIn v hq wake]
      simp [Focus.before?]
  | giveUp he => exact h.keep rfl rfl (.inl rfl) rfl
  | adopt dir b fresh => exact h.keep rfl rfl (.inr (Option.some_ne_none _)) rfl
  | release =>
    rename_i v e
    have hn := Room.inmates_eq_nil s.alone.2
    have hp : passages name (.left t.room.name v.id t.room.recorded :: t.trace) =
        .left v.id t.room.recorded :: passages name t.trace := by
      simp [passages, Happening.passage?, h.name]
    have ht : (t.release v).trace = .left t.room.name v.id t.room.recorded :: t.trace :=
      Turn.trace_invite _ _ _
    rw [ht, hp]
    refine h.leave (Turn.name_invite _ _ _) rfl ?_ (Turn.recorded_invite _ _ _) rfl ?_
    · rw [Room.inmates_congr (Turn.places_release t v)]
      exact hn
    · rw [Turn.release, Turn.waiting_ids_invite]
      rfl
  | depart users more => exact h.keep rfl rfl (.inl rfl) rfl
  | departLast users recorded => exact h.keep rfl rfl (.inl rfl) rfl
  | dropLatch users recorded latch => exact h.keep rfl rfl (.inl rfl) rfl
  | stumble lacks => exact absurd lacks s.counted.sound
  | direct hn => exact h.keep rfl rfl (.inl rfl) rfl
  | refuse hs => exact h.keep rfl rfl (.inl rfl) rfl
  | write live input => exact h.keep rfl rfl (.inl rfl) rfl
  | block =>
    rename_i id line
    have hi := Room.inmates_append (r := t.room)
      (q := (t.park ⟨id, .send line, none, .draining, .asleep⟩).room) (Room.places_append _ _)
    refine h.keep rfl ?_ (.inl rfl) ?_
    · rw [hi]
      simp [Caller.isInside, Caller.place, Focus.inside?]
    · rw [Turn.waiting_block]
      simp [Focus.before?]
  | answer he => exact h.keep rfl rfl (.inl rfl) rfl
  | finish => exact h.keep rfl rfl (.inl rfl) rfl
  | drain mem phase he =>
    have latch := (s.placed.suits mem).latch.mpr phase
    exact h.outside s mem phase latch
  | forsake mem latch =>
    have phase := (s.placed.suits mem).latch.mp latch
    exact h.outside s mem phase latch

/-- In every room in which nobody was told to give up, the passages tell of one call inside after
another. -/
theorem Course.passed {name : SessionName} {ds : List Deed} {r : Room} (c : Course name ds r)
    (calm : Calm ds) : Passed name .idle r (passages name (log ds)) := by
  induction c with
  | start => exact ⟨rfl, ⟨{}, rfl, rfl, fun _ => rfl⟩, rfl⟩
  | act c s sane a call birth ih =>
    rename_i ds r
    have hp := ih calm.tail
    have start : Passed name a.focus r (passages name (log ds)) := by
      refine hp.keep rfl ?_ (.inl rfl) ?_
      all_goals cases a <;> rfl
    have tidy : Tidy a.focus r := by
      refine (c.tidy calm.tail).advance ?_
      cases a <;> exact fun _ _ e => nomatch e
    obtain ⟨f, o, _, hf⟩ := c.sound.act_preserves sane (c.fits call birth)
      (calm _ List.mem_cons_self)
      (P := fun f t => Tidy f t.room ∧ Passed name f t.room (passages name t.trace ++
        passages name (log ds)))
      (fun m hm hk => ⟨m.tidy hm hk.1, m.passed hm hk.1 hk.2⟩) ⟨tidy, start⟩
    have hl : passages name (log (⟨r, s, a⟩ :: ds)) =
        passages name (r.act s a).trace ++ passages name (log ds) := passages_append _ _ _
    rw [hl]
    refine hf.keep rfl ?_ (.inl rfl) ?_
    all_goals cases f <;> first | rfl | cases o

/-! ## Other names -/

theorem Move.foreign {name n : SessionName} (ne : n ≠ name) {f g : Focus} {t u : Turn}
    (m : Move f t g u) (s : Sound f t.room) (same : t.room.name = n)
    (h : passages name t.trace = []) : passages name u.trace = [] := by
  have skip {x : Happening} {xs : List Happening} (hx : x.passage? name = none)
      (hs : passages name xs = []) : passages name (x :: xs) = [] := by
    unfold passages
    rw [List.filterMap_cons, hx]
    exact hs
  have away : t.room.name ≠ name := same ▸ ne
  cases m with
  | drift hd _ =>
    obtain ⟨xs, hx, ha⟩ := hd.trace
    rw [hx, passages_append, passages_of_aside name ha, h]
    rfl
  | approach _ => exact skip (if_neg away) h
  | enter _ => exact skip (if_neg away) h
  | letIn mem latch phase wake => exact skip (if_neg away) h
  | retreat mem latch phase wake eq =>
    subst eq
    split
    · exact h
    · rw [Turn.trace_invite]
      exact h
  | release =>
    rw [Turn.release, Turn.trace_invite]
    exact skip (if_neg away) h
  | stumble lacks => exact absurd lacks s.counted.sound
  | write live input => exact skip rfl h
  | _ => exact h

/-- What is done in the room of one name does not touch the latch of another. -/
theorem Sound.passages_act {r : Room} (h : Sound .idle r) {s : Setting} (sane : s.Sane) {a : Action}
    (fits : a.Fits r) {name : SessionName} (ne : r.name ≠ name) :
    passages name (r.act s a).trace = [] := by
  have start : Houses r.name (fun _ => True) a.focus r :=
    ⟨rfl, fun _ _ => trivial, fun _ _ => trivial⟩
  obtain ⟨f, _, _, hp⟩ := h.act_yields sane fits
    (P := fun f t => Houses r.name (fun _ => True) f t.room ∧ passages name t.trace = [])
    (fun m hm hk => ⟨m.houses hm hk.1, m.foreign ne hm hk.1.name hk.2⟩)
    (fun hs hk => ⟨hk.1.keep hs.name hs.places rfl, hs.trace ▸ hk.2⟩) ⟨start, rfl⟩
  exact hp

end Session

end ToolHost

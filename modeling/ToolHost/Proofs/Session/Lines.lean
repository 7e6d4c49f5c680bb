import Mathlib
import ToolHost.Proofs.Session.Replies

/-!
# Lines and processes

A line is written by one call, whole and at most once, to the process that is recorded and live
when the step begins in which it is written. A call that waits for its line to be taken has written
it, and so has one that ends well; any other call that waits has written nothing.
-/
namespace ToolHost

/-- What a call wrote to a process. -/
structure Write where
  call : CallId
  pid : Pid
  piece : Machine.Bytes
  deriving DecidableEq, Repr

def Happening.write? : Happening → Option Write
  | .wrote call pid piece => some ⟨call, pid, piece⟩
  | _ => none

/-- All that was written, the latest first. -/
def writes (xs : List Happening) : List Write := xs.filterMap (·.write?)

/-- What is written of a line. -/
def pieceOf (line : String) : Machine.Bytes := Text.Utf8.encode (line ++ "\n")

/-- All that was written to a process, in order. -/
def stdin (pid : Pid) (ws : List Write) : Machine.Bytes :=
  (ws.reverse.filter (·.pid = pid)).flatMap (·.piece)

@[simp] theorem writes_append (xs ys : List Happening) :
    writes (xs ++ ys) = writes xs ++ writes ys := List.filterMap_append

theorem writes_of_aside {xs : List Happening} (h : ∀ x ∈ xs, x.isAside) : writes xs = [] := by
  unfold writes
  rw [List.filterMap_eq_nil_iff]
  intro x hx
  have ha := h x hx
  cases x with
  | wrote _ _ _ => cases ha
  | _ => rfl

namespace Session

theorem Turn.writes_release (t : Turn) (v : Visit) :
    writes (t.release v).trace = writes t.trace := by
  have ht : (t.release v).trace = .left t.room.name v.id t.room.recorded :: t.trace :=
    Turn.trace_invite _ _ _
  rw [ht]
  rfl

/-! ## Where a line goes -/

/-- A line that is sent goes to this process. -/
structure Room.Targets (r : Room) (pid : Pid) : Prop where
  recorded : r.recorded = some pid
  live : (r.child pid).isLive
  input : (r.child pid).traits.hasInput

theorem Room.Targets.congr {r q : Room} {pid : Pid} (h : r.Targets pid)
    (recorded : q.recorded = r.recorded) (children : q.children = r.children) : q.Targets pid := by
  have hc := Room.child_congr children pid
  exact ⟨recorded.trans h.recorded, hc ▸ h.live, hc ▸ h.input⟩

/-- A call that still has to be let through, or has a line that is to be written. -/
def Focus.IsEarly : Focus → Prop
  | .idle | .calling _ _ | .before _ | .inside _ .entered | .inside _ (.leaving none) => True
  | .behind _ none | .through _ _ none => True
  | _ => False

/-- A call that cannot write any more: it has, or it waits or has ended. -/
def Focus.IsLate : Focus → Prop
  | .sent _ _ | .closed _ _ => True
  | _ => False

/-- What has been written in a step that began in a given room, and by which calls. -/
structure Aimed (r₀ : Room) (W : CallId × Request → Prop) (f : Focus) (t : Turn) : Prop where
  recorded : f.IsEarly → t.room.recorded = r₀.recorded
  ages : f.IsEarly → ∀ pid, (r₀.child pid).Ages (t.room.child pid)
  waiting : f = .idle → t.room.waiting = r₀.waiting
  writer : f.IsEarly → ∀ q, f.call? = some q → q.2.isLine → W q
  quiet : ¬ f.IsLate → writes t.trace = []
  written : ∀ w ∈ writes t.trace, r₀.Targets w.pid ∧ t.room.Targets w.pid ∧
    ∃ line, W (w.call, .send line) ∧ w.piece = pieceOf line

theorem Child.Ages.of_isLive {c d : Child} (h : c.Ages d) (live : d.isLive) : c.isLive := by
  unfold isLive hasEnded at *
  rw [h.isStopped] at live
  have hs : c.isStopped = false := by
    rw [Bool.and_eq_true] at live
    simpa using live.1
  have hd : d.code = none := by
    rw [Bool.and_eq_true] at live
    simpa using live.2
  have hc : c.code = none := by
    by_contra hne
    exact hne (h.code hne ▸ hd)
  rw [hs, hc]
  rfl

namespace Aimed

variable {r₀ : Room} {W : CallId × Request → Prop} {f g : Focus} {t u : Turn}

theorem keep (h : Aimed r₀ W f t) (going : ¬ f.IsLate) (early : g.IsEarly → f.IsEarly)
    (call : g.call? = f.call?) (recorded : u.room.recorded = t.room.recorded)
    (children : u.room.children = t.room.children) (written : writes u.trace = writes t.trace)
    (busy : g.call? ≠ none) : Aimed r₀ W g u where
  recorded hg := recorded.trans (h.recorded (early hg))
  ages hg pid := by
    rw [Room.child_congr children]
    exact h.ages (early hg) pid
  waiting hg := by rw [hg] at busy; exact absurd rfl busy
  writer hg q hq := h.writer (early hg) q (call ▸ hq)
  quiet _ := written.trans (h.quiet going)
  written w hw := by rw [written, h.quiet going] at hw; cases hw

/-- The call under way does not write any more. -/
theorem late (h : Aimed r₀ W f t) (going : ¬ f.IsLate) (late : ¬ g.IsEarly)
    (written : writes u.trace = writes t.trace) : Aimed r₀ W g u where
  recorded hg := absurd hg late
  ages hg := absurd hg late
  waiting hg := by rw [hg] at late; exact absurd trivial late
  writer hg := absurd hg late
  quiet _ := written.trans (h.quiet going)
  written w hw := by rw [written, h.quiet going] at hw; cases hw

/-- Nothing that matters for what was written changes. -/
theorem after (h : Aimed r₀ W f t) (late : ¬ g.IsEarly) (done : g.IsLate)
    (recorded : u.room.recorded = t.room.recorded) (children : u.room.children = t.room.children)
    (written : writes u.trace = writes t.trace) : Aimed r₀ W g u where
  recorded hg := absurd hg late
  ages hg := absurd hg late
  waiting hg := by rw [hg] at late; exact absurd trivial late
  writer hg := absurd hg late
  quiet hg := absurd done hg
  written w hw := by
    obtain ⟨hr, ht, hl⟩ := h.written w (written ▸ hw)
    exact ⟨hr, ht.congr recorded children, hl⟩

end Aimed

theorem Move.aimed {r₀ : Room} {W : CallId × Request → Prop} {f g : Focus} {t u : Turn}
    (m : Move f t g u) (admits : ∀ c ∈ r₀.waiting, c.wake = .woken → W (c.id, c.request))
    (s : Sound f t.room) (h : Aimed r₀ W f t) : Aimed r₀ W g u := by
  cases m with
  | drift hd still =>
    obtain ⟨xs, hx, ha⟩ := hd.trace
    have written : writes u.trace = writes t.trace := by
      rw [hx, writes_append, writes_of_aside ha, List.nil_append]
    refine ⟨fun hf => hd.recorded.trans (h.recorded hf), ?_,
      fun hf => hd.waiting.trans (h.waiting hf), h.writer, fun hf => written.trans (h.quiet hf), ?_⟩
    · intro hf pid
      exact (h.ages hf pid).trans (hd.ages pid)
    · intro w hw
      rw [written] at hw
      obtain ⟨hr, ht, hl⟩ := h.written w hw
      refine ⟨hr, ?_, hl⟩
      by_cases hf : f.IsLate
      · have same : u.room = t.room := by
          rcases still with may | same
          · cases f <;> first | exact absurd may id | exact absurd hf id
          · exact same
        exact same ▸ ht
      · rw [h.quiet hf] at hw
        cases hw
  | approach _ => exact h.keep id id rfl rfl rfl rfl nofun
  | enter _ => exact h.keep id id rfl rfl rfl rfl nofun
  | queue _ => exact h.late id id rfl
  | letIn mem latch phase wake =>
    rename_i c n
    have hc : c ∈ r₀.waiting := h.waiting rfl ▸ Room.mem_waiting.mpr ⟨mem, phase⟩
    have written : writes t.trace = [] := h.quiet id
    refine ⟨h.recorded, h.ages, nofun, ?_, fun _ => written, ?_⟩
    · rintro _ q ⟨⟩ _
      exact admits c hc wake
    · intro w hw
      change w ∈ writes t.trace at hw
      rw [written] at hw
      cases hw
  | retreat mem latch phase wake eq =>
    subst eq
    refine h.late id id ?_
    split
    · rfl
    · exact congrArg writes (Turn.trace_invite _ _ _)
  | resume mem latch goesOn awake =>
    rename_i c n st
    refine h.late id ?_ rfl
    intro he
    cases hp : c.phase <;> cases hw : c.wake <;> rw [hp, hw] at goesOn <;> cases goesOn <;>
      exact he
  | pass line => exact h.keep id id rfl rfl rfl rfl nofun
  | find request recorded live => exact h.late id id rfl
  | miss line recorded => exact h.late id id rfl
  | pop line recorded => exact h.late id id rfl
  | reap hr => exact h.late id id rfl
  | clear => exact h.late id id rfl
  | park stage asleep => exact h.late id id rfl
  | giveUp he => exact h.late id id rfl
  | adopt dir b fresh => exact h.late id id rfl
  | release =>
    rename_i v e
    exact h.keep id (by cases e <;> exact id) rfl (Turn.recorded_invite _ _ _)
      (Turn.children_invite _ _ _) (t.writes_release v) nofun
  | depart users more =>
    rename_i v e n
    exact h.keep id (by cases e <;> exact id) rfl rfl rfl rfl nofun
  | departLast users recorded =>
    rename_i v e
    exact h.keep id (by cases e <;> exact id) rfl rfl rfl rfl nofun
  | dropLatch users recorded latch =>
    rename_i v e
    exact h.keep id (by cases e <;> exact id) rfl rfl rfl rfl nofun
  | stumble lacks => exact absurd lacks s.counted.sound
  | direct hn => exact h.keep id id rfl rfl rfl rfl nofun
  | refuse hs => exact h.late id id rfl
  | write live input =>
    rename_i id line v
    obtain ⟨recorded, alive⟩ := Room.live?_eq_some live
    have ages := h.ages trivial v.pid
    have late := h.late (g := .sent id line) (u := t) (fun hg => hg) (fun hg => hg) rfl
    refine ⟨late.recorded, late.ages, nofun, late.writer, fun hg => absurd trivial hg, ?_⟩
    intro w hw
    have unwritten : writes t.trace = [] := h.quiet fun hg => hg
    rcases List.mem_cons.mp hw with rfl | hw
    · exact ⟨⟨(h.recorded trivial).symm.trans recorded, ages.of_isLive alive, ages.traits ▸ input⟩,
        ⟨recorded, alive, input⟩, line, h.writer trivial _ rfl rfl, rfl⟩
    · change w ∈ writes t.trace at hw
      rw [unwritten] at hw
      cases hw
  | block => exact h.after id trivial rfl rfl rfl
  | answer he => exact h.after id trivial rfl rfl rfl
  | finish => exact h.late id id rfl
  | drain mem phase he => exact h.late id id rfl
  | forsake mem latch => exact h.late id id rfl

/-- What is written in a step goes to the process that is recorded and live when the step begins,
and still when it ends. It is the line of a call that begins then, or of one that has leave to
enter. -/
theorem Sound.written {r : Room} (h : Sound .idle r) {s : Setting} (sane : s.Sane) {a : Action}
    (fits : a.Fits r) {w : Write} (hw : w ∈ writes (r.act s a).trace) :
    r.Targets w.pid ∧ (r.act s a).room.Targets w.pid ∧
      ∃ line, (a.call? = some (w.call, .send line) ∨
        ∃ c ∈ r.waiting, c.wake = .woken ∧ (c.id, c.request) = (w.call, .send line)) ∧
        w.piece = pieceOf line := by
  by_cases calm : a.isCancel = false
  · let W (q : CallId × Request) : Prop :=
      a.call? = some q ∨ ∃ c ∈ r.waiting, c.wake = .woken ∧ (c.id, c.request) = q
    have admits : ∀ c ∈ r.waiting, c.wake = .woken → W (c.id, c.request) :=
      fun c hc hw => .inr ⟨c, hc, hw, rfl⟩
    have start : Aimed r W a.focus { room := r } := by
      refine ⟨fun _ => rfl, fun _ _ => .refl _, fun _ => rfl, ?_, fun _ => rfl,
        fun _ h => nomatch h⟩
      intro _ q hq _
      cases a with
      | begin id request => exact .inl hq
      | _ => cases hq
    obtain ⟨f, _, hf⟩ := h.act_preserves (P := Aimed r W) sane fits calm
      (fun m hm hk => m.aimed admits hm hk) start
    exact hf.written w hw
  · cases a with
    | cancel id =>
      have hs := (cancel_spares { room := r } id h.placed.nodup).trace
      change w ∈ writes (Turn.cancel { room := r } id).trace at hw
      rw [hs] at hw
      cases hw
    | _ => exact absurd rfl calm

/-! ## What was written -/

def Focus.isSent : Focus → Prop
  | .sent _ _ => True
  | _ => False

/-- A call that ends so returns without an error. -/
def Ending.isGood : Ending → Bool
  | .session _ | .done => true
  | .failed _ | .abandoned => false

/-- Who has written and who has not. -/
structure Lined (f : Focus) (t : Turn) (ws : List Write) : Prop where
  once : (ws.map (·.call)).Nodup
  callers : ∀ c ∈ t.room.places, c.phase = .draining ↔ c.id ∈ ws.map (·.call)
  self : ∀ id, f.self? = some id → (f.isSent ↔ id ∈ ws.map (·.call))
  good : ∀ e, f.ending? = some e → e.isGood → ∀ q, f.call? = some q → q.2.isLine = false
  gone : ∀ id e, t.returned = some (id, e) → id ∉ t.room.ids
  answered : ∀ id q e, f = .closed id q → t.returned = some (id, e) → e.isGood → q.isLine →
    id ∈ ws.map (·.call)

namespace Lined

variable {f g : Focus} {t u : Turn} {ws : List Write}

/-- No call changes its place, and nothing is written or returned. -/
theorem keep (h : Lined f t ws) (places : u.room.places = t.room.places)
    (returned : u.returned = t.returned) (self : g.self? = f.self?) (sent : g.isSent ↔ f.isSent)
    (good : ∀ e, g.ending? = some e → e.isGood → ∀ q, g.call? = some q → q.2.isLine = false)
    (going : g.isClosed = false) : Lined g u ws where
  once := h.once
  callers := places ▸ h.callers
  self id hid := sent.trans (h.self id (self ▸ hid))
  good := good
  gone id e hr := by
    rw [Room.ids_eq, places, ← Room.ids_eq]
    exact h.gone id e (returned ▸ hr)
  answered id q e hq := by rw [hq] at going; cases going

/-- A call that has not written goes on. -/
theorem remove (h : Lined f t ws) {c : Caller} (mem : c ∈ t.room.callers)
    (unwritten : c.phase ≠ .draining)
    (places : u.room.places = t.room.places.filter (·.id != c.id)) (returned : u.returned = none)
    (self : g.self? = some c.id) (sent : ¬ g.isSent)
    (bad : ∀ e, g.ending? = some e → e.isGood = false) : Lined g u ws where
  once := h.once
  callers d hd := by
    rw [places] at hd
    exact h.callers d (List.mem_filter.mp hd).1
  self id hid := by
    rw [self] at hid
    cases hid
    have := h.callers c.place (Room.place_mem mem)
    exact (iff_of_false sent unwritten).trans this
  good e he hg := by rw [bad e he] at hg; cases hg
  gone id e hr := by rw [returned] at hr; cases hr
  answered id q e hq := by rw [hq] at self; cases self

/-- The call under way waits; it has written if it waits for its line to be taken. -/
theorem add (h : Lined f t ws) {c : Caller} (places : u.room.places = t.room.places ++ [c])
    (returned : u.returned = none) (self : f.self? = some c.id)
    (sent : c.phase = .draining ↔ f.isSent) {request : Request} :
    Lined (.closed c.id request) u ws where
  once := h.once
  callers d hd := by
    rw [places] at hd
    rcases List.mem_append.mp hd with hd | hd
    · exact h.callers d hd
    · rw [List.mem_singleton.mp hd]
      exact sent.trans (h.self c.id self)
  self id hid := nomatch hid
  good e he := nomatch he
  gone id e hr := by rw [returned] at hr; cases hr
  answered id q e hq hr := by rw [returned] at hr; cases hr

/-- The call under way ends, well only if it has written its line. -/
theorem close {id : CallId} {request : Request} {e : Ending} (h : Lined f t ws)
    (places : ∀ c ∈ u.room.places, c ∈ t.room.places) (returned : u.returned = some (id, e))
    (out : id ∉ u.room.ids) (answered : e.isGood → request.isLine → id ∈ ws.map (·.call)) :
    Lined (.closed id request) u ws where
  once := h.once
  callers d hd := h.callers d (places d hd)
  self i hi := nomatch hi
  good e he := nomatch he
  gone i x hx := by
    rw [returned] at hx
    cases hx
    exact out
  answered i q x hq hr hg hl := by
    cases hq
    rw [returned] at hr
    exact answered ((Prod.mk.inj (Option.some.inj hr)).2 ▸ hg) hl

end Lined

theorem Turn.not_mem_unpark (t : Turn) (id : CallId) : id ∉ (t.unpark id).room.ids := by
  simp [unpark, Room.ids]

theorem Request.isLine_of_mayEnd {q : Request} {e : Ending} (h : q.mayEnd e) (good : e.isGood) :
    q.isLine = false := by
  cases e with
  | session v => cases h
  | done =>
    have hq : q = .stop := h
    rw [hq]
    rfl
  | failed t => cases good
  | abandoned => cases h

theorem Move.lined {f g : Focus} {t u : Turn} {old : List Write} (m : Move f t g u)
    (s : Sound f t.room) (r : Replied f t) (h : Lined f t (writes t.trace ++ old)) :
    Lined g u (writes u.trace ++ old) := by
  have open_ (going : f.isClosed = false) : t.returned = none := by
    by_contra hr
    obtain ⟨x, hx⟩ := Option.ne_none_iff_exists'.mp hr
    obtain ⟨q, rfl, _⟩ := r.given x.1 x.2 hx
    cases going
  cases m with
  | drift hd _ =>
    obtain ⟨xs, hx, ha⟩ := hd.trace
    rw [hx, writes_append, writes_of_aside ha, List.nil_append]
    refine ⟨h.once, hd.places ▸ h.callers, h.self, h.good, ?_, ?_⟩
    · intro id e hr
      rw [Room.ids_eq, hd.places, ← Room.ids_eq]
      exact h.gone id e (hd.returned ▸ hr)
    · intro id q e hq hr
      exact h.answered id q e hq (hd.returned ▸ hr)
  | approach _ => exact h.keep rfl rfl rfl .rfl (fun _ e => nomatch e) rfl
  | enter _ => exact h.keep rfl rfl rfl .rfl (fun _ e => nomatch e) rfl
  | queue _ =>
    exact h.add (Turn.places_wait _ _) (open_ rfl) rfl (iff_of_false Phase.noConfusion id)
  | letIn mem latch phase wake =>
    exact h.remove mem (by simp [phase]) (by simp) (open_ rfl) rfl id fun _ e => nomatch e
  | retreat mem latch phase wake eq =>
    subst eq
    have hw {a b : Turn} {c : Prop} [Decidable c] (e : a.trace = b.trace) :
        (if c then b else a).trace = b.trace := by split <;> first | rfl | exact e
    rw [hw (Turn.trace_invite _ _ _)]
    refine h.remove mem (by simp [phase]) (by split <;> simp) ?_ rfl id ?_
    · split
      · exact open_ rfl
      · exact (Turn.returned_invite _ _ _).trans (open_ rfl)
    · rintro e ⟨⟩
      rfl
  | resume mem latch goesOn awake =>
    rename_i c n st
    have hd : c.phase ≠ .draining := by
      intro e
      rw [(s.placed.suits mem).latch.mpr e] at latch
      cases latch
    refine h.remove mem hd (Turn.places_unpark _ _) (open_ rfl) rfl id ?_
    intro e he
    cases hp : c.phase <;> cases hw : c.wake <;> rw [hp, hw] at goesOn <;> cases goesOn <;>
      first
      | exact absurd hp hd
      | cases he
    all_goals rfl
  | pass line => exact h.keep rfl rfl rfl .rfl (fun _ e => nomatch e) rfl
  | find request recorded live =>
    refine h.keep rfl rfl rfl .rfl ?_ rfl
    rintro e ⟨⟩ _ q ⟨⟩
    rw [request]
    rfl
  | miss line recorded => exact h.keep rfl rfl rfl .rfl (fun _ e => nomatch e) rfl
  | pop line recorded => exact h.keep rfl rfl rfl .rfl (fun _ e => nomatch e) rfl
  | reap hr => exact h.keep rfl rfl rfl .rfl (fun _ e => nomatch e) rfl
  | clear => exact h.keep rfl rfl rfl .rfl (fun _ e => nomatch e) rfl
  | park stage asleep =>
    rename_i v st phase wake
    exact h.add (Turn.places_parkIn _ _ _ _) (open_ rfl) rfl
      (iff_of_false (Phase.ne_draining_of_stage stage) id)
  | giveUp he =>
    refine h.keep rfl rfl rfl .rfl ?_ rfl
    rintro e ⟨⟩ hg q ⟨⟩
    exact Request.isLine_of_mayEnd he hg
  | adopt dir b fresh =>
    refine h.keep rfl rfl rfl .rfl ?_ rfl
    rintro e ⟨⟩ _ q ⟨⟩
    exact s.placed.focus
  | release =>
    rename_i v e
    rw [t.writes_release v]
    exact h.keep (Turn.places_release _ _) (Turn.returned_invite _ _ _) rfl .rfl h.good rfl
  | depart users more => exact h.keep rfl rfl rfl .rfl h.good rfl
  | departLast users recorded => exact h.keep rfl rfl rfl .rfl h.good rfl
  | dropLatch users recorded latch => exact h.keep rfl rfl rfl .rfl h.good rfl
  | stumble lacks => exact absurd lacks s.counted.sound
  | direct hn => exact h.keep rfl rfl rfl .rfl (fun _ e => nomatch e) rfl
  | refuse hs =>
    exact h.close (fun _ hc => hc) rfl (s.placed.self _ rfl) fun e => nomatch e
  | write live input =>
    rename_i id line v
    have hs := h.self id rfl
    have fresh : id ∉ (writes t.trace ++ old).map (·.call) := fun hm => hs.mpr hm
    refine ⟨List.nodup_cons.mpr ⟨fresh, h.once⟩, ?_, ?_, (fun _ e => nomatch e), ?_,
      (fun _ _ _ e => nomatch e)⟩
    · intro c hc
      have hne : c.id ≠ id := by
        intro e
        apply s.placed.self id rfl
        rw [Room.ids_eq, ← e]
        exact List.mem_map_of_mem hc
      refine (h.callers c hc).trans ?_
      change _ ↔ c.id ∈ id :: (writes t.trace ++ old).map (·.call)
      rw [List.mem_cons, or_iff_right hne]
    · rintro i ⟨⟩
      exact iff_of_true trivial List.mem_cons_self
    · intro i e hr
      have hn : t.returned = some (i, e) := hr
      rw [open_ rfl] at hn
      cases hn
  | block =>
    rename_i id line
    have hp : (t.park ⟨id, .send line, none, .draining, .asleep⟩).room.places =
        t.room.places ++ [⟨id, .send line, none, .draining, .asleep⟩] := Room.places_append _ _
    exact h.add hp (open_ rfl) rfl (iff_of_true rfl trivial)
  | answer he =>
    exact h.close (fun _ hc => hc) rfl (s.placed.self _ rfl)
      fun _ _ => (h.self _ rfl).mp trivial
  | finish =>
    rename_i id request e
    refine h.close (fun _ hc => hc) rfl (s.placed.self _ rfl) ?_
    intro hg hl
    rw [h.good e rfl hg _ rfl] at hl
    cases hl
  | drain mem phase he =>
    rename_i c e
    refine h.close (fun d hd => ?_) rfl (t.not_mem_unpark c.id) fun _ _ => ?_
    · have hd : d ∈ (t.unpark c.id).room.places := hd
      rw [Turn.places_unpark] at hd
      exact (List.mem_filter.mp hd).1
    · exact (h.callers c.place (Room.place_mem mem)).mp phase
  | forsake mem latch awake =>
    rename_i c
    refine h.close (fun d hd => ?_) rfl (t.not_mem_unpark c.id) fun e => nomatch e
    have hd : d ∈ (t.unpark c.id).room.places := hd
    rw [Turn.places_unpark] at hd
    exact (List.mem_filter.mp hd).1

end Session

end ToolHost

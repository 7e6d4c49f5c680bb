import Mathlib
import ToolHost.Proofs.Session.Delivery
import ToolHost.Proofs.Session.Relaying

/-!
# One process after another on display

Only a process whose relay goes on is put on display, and as long as nobody gives up that is the
one that was created last. So the texts on display follow each other process by process, and a
process that was replaced, or whose stop has come to its end, never shows anything again.
-/
namespace ToolHost.Session

/-! ## Who is put on display -/

/-- Only processes whose relay goes on are put on display, and no relay begins. -/
structure Speaks (t u : Turn) : Prop where
  pids : u.room.pids = t.room.pids
  relays : ∀ p, u.room.Relays p → t.room.Relays p
  trace : ∃ xs, u.trace = xs ++ t.trace ∧
    ∀ x ∈ xs, ∀ p, (x.appended? p).isSome → t.room.Relays p

/-- A relay that has ended does nothing. -/
theorem Turn.relay_of_done {t : Turn} {pid : Pid}
    (done : (t.child pid).relay.isDone) : t.relay pid = t := by
  have hp : (t.child pid).relay.progress = .done := by simpa [Relay.isDone] using done
  simp [Turn.relay, hp]

namespace Speaks

variable {t u w : Turn}

theorem refl (t : Turn) : Speaks t t := ⟨rfl, fun _ => id, [], rfl, by simp⟩

theorem trans (h : Speaks t u) (k : Speaks u w) : Speaks t w where
  pids := k.pids.trans h.pids
  relays p hp := h.relays p (k.relays p hp)
  trace := by
    obtain ⟨xs, hx, sx⟩ := h.trace
    obtain ⟨ys, hy, sy⟩ := k.trace
    refine ⟨ys ++ xs, by rw [hy, hx, List.append_assoc], fun x hm p hs => ?_⟩
    rcases List.mem_append.mp hm with hm | hm
    · exact h.relays p (sy x hm p hs)
    · exact sx x hm p hs

/-- What is not output puts nothing on display. -/
theorem of_quiet (q : Quiet t u) : Speaks t u where
  pids := q.pids
  relays p hp := by
    rw [Room.relays_iff] at hp ⊢
    rwa [q.pids, (q.keeps p).isDone] at hp
  trace := by
    obtain ⟨xs, hx, quiet⟩ := q.trace
    refine ⟨xs, hx, fun x hm p hs => ?_⟩
    have hq := quiet x hm
    cases x <;> first | cases hs | cases hq

theorem output (t : Turn) (pid : Pid) (portion : Machine.Bytes) :
    Speaks t (t.output pid portion) where
  pids := (Side.output t pid portion).pids
  relays _ := (Side.output t pid portion).relays
  trace := by
    unfold Turn.output
    simp only
    split
    · exact ⟨[.uttered pid portion], Turn.trace_rouse _ _, by simp [Happening.appended?]⟩
    · exact ⟨[], Turn.trace_rouse _ _, by simp⟩

theorem relay (t : Turn) (pid : Pid) : Speaks t (t.relay pid) where
  pids := (Side.relay t pid).pids
  relays _ := (Side.relay t pid).relays
  trace := by
    by_cases mem : pid ∈ t.room.pids
    · cases done : (t.child pid).relay.isDone with
      | true => exact ⟨[], by rw [Turn.relay_of_done done]; rfl, by simp⟩
      | false =>
        obtain ⟨xs, hx, mute⟩ := (Only.relay t pid).trace
        refine ⟨xs, hx, fun x hm p hs => ?_⟩
        have hp : p = pid := by
          by_contra hne
          refine mute p hne x hm ?_
          cases x <;> simp_all [Happening.appended?, Happening.source?]
        rw [hp]
        exact (t.room.relays_iff pid).mpr ⟨mem, done⟩
    · exact ⟨[], trace_relay_of_notMem mem, by simp⟩

theorem clear (t : Turn) : Speaks t t.clear := by
  unfold Turn.clear
  split
  · exact refl t
  · exact ⟨rfl, fun _ => id, [.cleared t.room.name], rfl, by simp [Happening.appended?]⟩

theorem of_told (h : Told t u) : Speaks t u := by
  induction h with
  | refl => exact refl t
  | tail _ step ih =>
    cases step with
    | quiet q => exact ih.trans (of_quiet q)
    | output pid portion => exact ih.trans (output _ pid portion)
    | relay pid => exact ih.trans (relay _ pid)
    | clear => exact ih.trans (clear _)

end Speaks

/-! ## A process that is done -/

/-- A process whose relay has ended. -/
def Settled (p : Pid) (r : Room) : Prop := p ∈ r.pids ∧ ¬ r.Relays p

theorem displayed_eq_nil {p : Pid} {xs : List Happening} (h : ∀ x ∈ xs, (x.appended? p).isNone) :
    displayed p xs = [] := recount_eq_nil fun x hx => by simpa using h x hx

theorem Speaks.settled {t u : Turn} (h : Speaks t u) {p : Pid} (settled : Settled p t.room)
    (silent : displayed p t.trace = []) : Settled p u.room ∧ displayed p u.trace = [] := by
  obtain ⟨xs, hx, speaks⟩ := h.trace
  refine ⟨⟨h.pids ▸ settled.1, fun hr => settled.2 (h.relays p hr)⟩, ?_⟩
  have none : displayed p xs = [] := by
    refine displayed_eq_nil fun x hm => ?_
    by_contra hs
    exact settled.2 (speaks x hm p (by simpa [Option.isSome_iff_ne_none] using hs))
  rw [hx, displayed, recount_append]
  exact (congrArg₂ _ silent none).trans rfl

theorem Move.settled {f g : Focus} {t u : Turn} (m : Move f t g u) (s : Sound f t.room) {p : Pid}
    (settled : Settled p t.room) (silent : displayed p t.trace = []) :
    Settled p u.room ∧ displayed p u.trace = [] := by
  rcases m.tells s with told | ⟨dir, b, fresh, _, rfl⟩
  · exact (Speaks.of_told told).settled settled silent
  · refine ⟨⟨?_, fun hr => ?_⟩, silent⟩
    · exact (t.room.pids_adopt dir b).symm ▸ List.mem_append_left _ settled.1
    · rcases Room.relays_adopt fresh hr with rfl | hr
      · exact fresh settled.1
      · exact settled.2 hr

/-- A process whose relay has ended never shows anything again. -/
theorem Sound.act_settled {r : Room} (h : Sound .idle r) {s : Setting} (sane : s.Sane) {a : Action}
    (fits : a.Fits r) {p : Pid} (settled : Settled p r) :
    Settled p (r.act s a).room ∧ displayed p (r.act s a).trace = [] := by
  obtain ⟨f, _, hf⟩ := h.act_yields
    (P := fun _ t => Settled p t.room ∧ displayed p t.trace = []) sane fits
    (fun m hm hk => m.settled hm hk.1 hk.2)
    (fun hs hk => by
      unfold Settled
      rw [Room.pids_congr hs.children, Room.relays_congr hs.children, hs.trace]
      exact hk)
    ⟨settled, rfl⟩
  exact hf

/-! ## The order of the display -/

/-- What is on display comes from one process after another, and a relay that goes on is that of
the last. -/
structure Trailing (r : Room) (xs : List Happening) : Prop where
  nodup : r.pids.Nodup
  last : ∀ p, r.Relays p → r.pids.getLast? = some p
  texts : recount Happening.text? xs = r.pids.flatMap fun p => displayed p xs

/-- Where one process only is put on display, the texts are the ones of that process. -/
theorem texts_eq_displayed {p : Pid} {xs : List Happening}
    (h : ∀ x ∈ xs, ∀ q, (x.appended? q).isSome → q = p) :
    recount Happening.text? xs = displayed p xs := by
  unfold recount displayed recount
  refine congrArg List.reverse (List.filterMap_congr fun x hx => ?_)
  have hs := h x hx
  cases x with
  | appended name q text =>
    have hq : q = p := hs q (by simp [Happening.appended?])
    simp [Happening.text?, Happening.appended?, hq]
  | _ => rfl

theorem Speaks.trailing {t u : Turn} (h : Speaks t u) {past : List Happening}
    (k : Trailing t.room (t.trace ++ past)) : Trailing u.room (u.trace ++ past) := by
  refine ⟨h.pids ▸ k.nodup, fun p hp => h.pids ▸ k.last p (h.relays p hp), ?_⟩
  obtain ⟨xs, hx, speaks⟩ := h.trace
  have apart {p q : Pid} (hp : t.room.pids.getLast? = some p) (hne : q ≠ p) :
      displayed q xs = [] := by
    refine displayed_eq_nil fun x hm => ?_
    by_contra hs
    have hq := k.last q (speaks x hm q (by simpa [Option.isSome_iff_ne_none] using hs))
    exact hne (Option.some.inj (hq.symm.trans hp))
  rw [hx, h.pids, List.append_assoc, recount_append, k.texts]
  have split (q : Pid) : displayed q (xs ++ (t.trace ++ past)) =
      displayed q (t.trace ++ past) ++ displayed q xs := recount_append _ _
  simp only [split]
  rcases List.eq_nil_or_concat' t.room.pids with nil | ⟨init, p, concat⟩
  · have none : recount Happening.text? xs = [] := by
      refine recount_eq_nil fun x hm => ?_
      cases x with
      | appended name q text =>
        have hq := k.last q (speaks _ hm q (by simp [Happening.appended?]))
        rw [nil] at hq
        cases hq
      | _ => rfl
    rw [nil, none]
    rfl
  · have hl : t.room.pids.getLast? = some p := by rw [concat, List.getLast?_concat]
    have out : p ∉ init := by
      have nodup := k.nodup
      rw [concat, List.nodup_append] at nodup
      exact fun hm => nodup.2.2 p hm p List.mem_cons_self rfl
    have front : (init.flatMap fun q => displayed q (t.trace ++ past) ++ displayed q xs) =
        init.flatMap fun q => displayed q (t.trace ++ past) := by
      refine List.flatMap_congr fun q hq => ?_
      rw [apart hl fun e => out (e ▸ hq), List.append_nil]
    have own : recount Happening.text? xs = displayed p xs :=
      texts_eq_displayed fun x hm q hs =>
        Option.some.inj ((k.last q (speaks x hm q hs)).symm.trans hl)
    rw [concat, List.flatMap_append, List.flatMap_append, front, own]
    simp

/-- A new process comes last, if no relay goes on. -/
theorem Trailing.adopt {r : Room} {xs : List Happening} (h : Trailing r xs) (aired : Aired r xs)
    (dir : Machine.Path) {b : Birth} (fresh : b.pid ∉ r.pids) (still : ∀ p, ¬ r.Relays p) :
    Trailing (r.adopt dir b) xs := by
  refine ⟨?_, fun p hp => ?_, ?_⟩
  · rw [Room.pids_adopt, List.nodup_append]
    refine ⟨h.nodup, List.nodup_singleton _, fun p hp q hq e => ?_⟩
    rw [List.mem_singleton.mp hq] at e
    exact fresh (e ▸ hp)
  · rcases Room.relays_adopt fresh hp with rfl | hp
    · rw [Room.pids_adopt, List.getLast?_concat]
    · exact absurd hp (still p)
  · rw [Room.pids_adopt, List.flatMap_append, ← h.texts, List.flatMap_singleton,
      ((aired.airs b.pid).2 fresh).2.2, List.append_nil]

theorem Move.trailing {f g : Focus} {t u : Turn} (m : Move f t g u) (s : Sound f t.room)
    (tidy : Tidy f t.room) {past : List Happening} (aired : Aired t.room (t.trace ++ past))
    (h : Trailing t.room (t.trace ++ past)) : Trailing u.room (u.trace ++ past) := by
  rcases m.tells s with told | ⟨dir, b, fresh, ⟨v, rfl⟩, rfl⟩
  · exact (Speaks.of_told told).trailing h
  · have vacant := (tidy.focus v .vacant rfl).2
    exact h.adopt aired dir fresh fun p hp => vacant p (.inr hp)

/-! ## Courses -/

namespace Course

variable {name : SessionName} {ds later : List Deed} {r q : Room}

/-- An action that tells nobody to give up leaves things as they should be. -/
theorem act_calm {P : Focus → Turn → Prop} (c : Course name ds r) (tidy : Tidy .idle r)
    {s : Setting} (sane : s.Sane) {a : Action}
    (call : ∀ q, a.call? = some q → q.1 ∉ (calls ds).map (·.1))
    (birth : ∀ b, a.birth? = some b → b.pid ∉ r.pids) (calm : a.isCancel = false)
    (step : ∀ {f t g u}, Move f t g u → Sound f t.room → Tidy f t.room → P f t → P g u)
    (start : P a.focus { room := r }) : ∃ f, f.IsOver a.subject? ∧ P f (r.act s a) := by
  have begins : Tidy a.focus r := by
    refine tidy.advance ?_
    cases a <;> exact fun _ _ e => nomatch e
  obtain ⟨f, o, _, hf⟩ := c.sound.act_preserves (P := fun f t => Tidy f t.room ∧ P f t) sane
    (c.fits call birth) calm (fun m hm hk => ⟨m.tidy hm hk.1, step m hm hk.1 hk.2⟩) ⟨begins, start⟩
  exact ⟨f, o, hf⟩

theorem trailing (c : Course name ds r) (calm : Calm ds) : Trailing r (log ds) := by
  induction c with
  | start => exact ⟨.nil, (fun p hp => nomatch (Room.relays_iff _ p).mp hp), rfl⟩
  | act c s sane a call birth ih =>
    rename_i ds r
    obtain ⟨f, _, _, hf⟩ := c.act_calm
      (P := fun _ t => Aired t.room (t.trace ++ log ds) ∧ Trailing t.room (t.trace ++ log ds))
      (c.tidy calm.tail) sane call birth (calm _ List.mem_cons_self)
      (fun m hm ht hk => ⟨m.aired hm hk.1, m.trailing hm ht hk.1 hk.2⟩) ⟨c.aired, ih calm.tail⟩
    exact hf

/-- Where a call that is no line has come to its end, it has got a session, or nothing is recorded,
nothing runs, no relay goes on and nobody waits inside the latch. -/
theorem cleared (c : Course name ds r) (calm : Calm ds) {d : Deed} (hd : d ∈ ds) {id : CallId}
    {e : Ending} (returned : d.turn.returned = some (id, e)) {q : Request} (hq : (id, q) ∈ calls ds)
    (other : q.isLine = false) :
    (q.launches ∧ ∃ v, e = .session v) ∨
      (q.mayEnd e ∧ Stage.vacant.Holds d.turn.room ∧ d.turn.room.insiders = 0) := by
  induction c with
  | start => cases hd
  | act c s sane a call birth ih =>
    rename_i ds r
    have next := c.act s sane a call birth
    rcases List.mem_cons.mp hd with rfl | hd
    · have none : Cleared a.focus { room := r } := .keep rfl (by cases a <;> rfl)
      obtain ⟨f, _, hr, hh, he⟩ := c.act_calm
        (P := fun f t => Replied f t ∧ Houses name (Has (⟨r, s, a⟩ :: ds)) f t.room ∧ Cleared f t)
        (c.tidy calm.tail) sane call birth (calm _ List.mem_cons_self)
        (fun m hm ht hk => ⟨m.replied hm hk.1, m.houses hm hk.2.1, m.cleared hm ht hk.1 hk.2.2⟩)
        ⟨.begins r a, c.houses_focus s a, none⟩
      obtain ⟨p, rfl, _⟩ := hr.given id e returned
      cases next.request_unique hq (hh.focus _ rfl)
      exact he id q e rfl other (.inr returned)
    · obtain ⟨p, hp, _⟩ := c.fair hd returned
      cases next.request_unique hq (mem_calls_cons.mpr (.inr hp))
      exact ih calm.tail hd hp

/-- Where a call that stops has come to its end, it has not failed, nothing is recorded, nothing
runs and no relay goes on. -/
theorem emptied (c : Course name ds r) (calm : Calm ds) {d : Deed} (hd : d ∈ ds) {id : CallId}
    {e : Ending} (returned : d.turn.returned = some (id, e)) (stop : (id, .stop) ∈ calls ds) :
    e = .done ∧ Stage.vacant.Holds d.turn.room := by
  rcases c.cleared calm hd returned stop rfl with ⟨launches, _⟩ | ⟨may, vacant, _⟩
  · cases launches
  · refine ⟨?_, vacant⟩
    cases e with
    | done => rfl
    | failed t => cases may.1
    | _ => cases may

/-- The room is what the deeds have made of it. -/
theorem room_unique (c : Course name ds r) (k : Course name ds q) : q = r := by
  cases c with
  | start => cases k; rfl
  | act _ s _ a => cases k; rfl

/-- A process whose relay has ended stays silent, whatever is done later. -/
theorem stays_settled (c : Course name ds r) (k : Course name (later ++ ds) q) {p : Pid}
    (settled : Settled p r) : Settled p q ∧ displayed p (log later) = [] := by
  induction later generalizing q with
  | nil =>
    rw [c.room_unique k]
    exact ⟨settled, rfl⟩
  | cons d later ih =>
    cases k with
    | act k s sane a call birth =>
      obtain ⟨before, none⟩ := ih k
      obtain ⟨after, nothing⟩ := k.sound.act_settled sane (k.fits call birth) before
      refine ⟨after, ?_⟩
      change displayed p ((Room.act _ s a).trace ++ log later) = []
      rw [displayed, recount_append]
      exact (congrArg₂ _ none nothing).trans rfl

end Course

end ToolHost.Session

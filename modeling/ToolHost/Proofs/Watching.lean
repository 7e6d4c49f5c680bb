import ToolHost.Proofs.Board.Rest

/-!
# No watcher misses its text

Whatever is put up and whenever, and whoever else watches: a watcher is told of its text at the
first moment at which it is on display, in one part or in several, and it gives up when its time is
over and no sooner. That one of them lowers the flag which they all share lets none of the others
sleep through its text.
-/
namespace ToolHost.Board.Show

section Moments

variable {τ : Type} [LinearOrder τ]

/-- The first moment of a watch at which its text is on display. -/
structure IsFirst (s : Show τ) (w : Watch τ) (t : τ) : Prop where
  since : w.since ≤ t
  contains : s.Contains t w.wanted
  early : ∀ u, w.since ≤ u → u < t → ¬ s.Contains u w.wanted

/-- All that was to be done up to some moment has been done. -/
def HasPassed (s : Show τ) (t : τ) : Prop := t < s.clock ∨ t = s.clock ∧ s.IsAtRest

/-- A watch ends when it should and as it should. -/
structure Keeps [Add τ] (s : Show τ) (w : Watch τ) : Prop where
  /-- A watch that has found its text ended when the text showed up, within its time. -/
  found : ∀ t, (w.id, t, true) ∈ s.ended →
    s.IsFirst w t ∧ ∀ d, w.deadline? = some d → t ≤ d
  /-- A watch that gave up ended when its time was over, and had missed nothing before. -/
  gaveUp : ∀ t, (w.id, t, false) ∈ s.ended →
    w.deadline? = some t ∧ ∀ u, w.since ≤ u → u < t → ¬ s.Contains u w.wanted
  finds : ∀ t, s.IsFirst w t → (∀ d, w.deadline? = some d → t < d) → s.HasPassed t →
    (w.id, t, true) ∈ s.ended
  givesUp : ∀ d, w.deadline? = some d →
    (∀ u, w.since ≤ u → u ≤ d → ¬ s.Contains u w.wanted) → s.HasPassed d →
    (w.id, d, false) ∈ s.ended

variable {s : Show τ} {w : Watch τ} {t : τ}

theorem IsFirst.eq {u : τ} (ht : s.IsFirst w t) (hu : s.IsFirst w u) : t = u := by
  apply le_antisymm
  · exact le_of_not_gt fun lt => ht.early u hu.since lt hu.contains
  · exact le_of_not_gt fun lt => hu.early t ht.since lt ht.contains

theorem IsAtRest.ready (h : s.IsAtRest) : s.ready = [] :=
  List.eq_nil_iff_forall_not_mem.mpr fun _ hj => h _ (.perform hj)

theorem IsAtRest.alarm (h : s.IsAtRest) {a : τ × CallId} (ha : a ∈ s.alarms) : s.clock < a.1 :=
  lt_of_not_ge fun due => h _ (.ring ha due)

end Moments

variable {τ : Type} [AddCommMonoid τ] [LinearOrder τ] {s : Show τ} {w : Watch τ} {v : Watcher}
  {t : τ}

theorem Ended.isFirst (h : s.Ended w t true) : s.IsFirst w t :=
  ⟨h.since, (h.found rfl).1, h.early⟩

namespace Watched

/-- A watch that goes on has missed nothing, and its time is not over. -/
theorem waits (h : s.Watched) (mem : v ∈ s.board.watchers) (mind : s.Minds w v)
    (passed : s.HasPassed t) :
    (w.since ≤ t → ¬ s.Contains t w.wanted) ∧ ∀ d, w.deadline? = some d → t < d := by
  obtain past | ⟨rfl, rest⟩ := passed
  · exact ⟨fun since => mind.early t since past, fun d hd => past.trans_le (h.le_deadline mind hd)⟩
  · obtain ⟨asleep, undismissed, unreleased⟩ := h.rests rest.ready mem
    refine ⟨fun _ => (mind.asleep asleep).2.1, fun d hd => ?_⟩
    obtain alarm | ⟨-, told⟩ := mind.alarm d hd
    · exact rest.alarm alarm
    · simp [undismissed, unreleased] at told

theorem keeps (h : s.Watched) (hw : w ∈ s.watches) : s.Keeps w := by
  have ended {t : τ} {b : Bool} (he : (w.id, t, b) ∈ s.ended) : s.Ended w t b := by
    obtain ⟨-, x, hx, id, ended⟩ := h.ended _ he
    exact h.eq_of_watch hx hw id ▸ ended
  -- Either the watch goes on, and nothing has happened yet, or it has an outcome.
  have outcome {t : τ} (passed : s.HasPassed t) :
      ((w.since ≤ t → ¬ s.Contains t w.wanted) ∧ ∀ d, w.deadline? = some d → t < d) ∨
        ∃ e b, (w.id, e, b) ∈ s.ended := by
    refine (h.known w hw).imp_left ?_
    rintro ⟨v, hv, id⟩
    obtain ⟨x, hx, same, mind⟩ := h.minds v hv
    obtain rfl := h.eq_of_watch hx hw (same.trans id)
    exact h.waits hv mind passed
  constructor
  case found => exact fun t he => ⟨(ended he).isFirst, ((ended he).found rfl).2⟩
  case gaveUp => exact fun t he => ⟨(ended he).gaveUp rfl, (ended he).early⟩
  case finds =>
    intro t first inTime passed
    obtain ⟨missing, -⟩ | ⟨e, b, he⟩ := outcome passed
    · exact absurd first.contains (missing first.since)
    · cases b with
      | true => exact first.eq (ended he).isFirst ▸ he
      | false =>
        have lt := inTime e ((ended he).gaveUp rfl)
        exact absurd first.contains ((ended he).early t first.since lt)
  case givesUp =>
    intro d deadline missing passed
    obtain ⟨-, inTime⟩ | ⟨e, b, he⟩ := outcome passed
    · exact absurd (inTime d deadline) (lt_irrefl d)
    · cases b with
      | true =>
        have first := (ended he).isFirst
        exact absurd first.contains (missing e first.since (((ended he).found rfl).2 d deadline))
      | false =>
        obtain rfl := Option.some_inj.mp (((ended he).gaveUp rfl).symm.trans deadline)
        exact he

/-- Who sleeps is on the list of those who will be woken, and wants nothing that is on display. -/
theorem sleeps (h : s.Watched) (mem : v ∈ s.board.watchers) (asleep : v.stand = .asleep) :
    s.board.isRaised = false ∧ v.id ∈ s.board.sleepers ∧ s.board.shows v.wanted = false := by
  obtain ⟨w, -, -, mind⟩ := h.minds v mem
  obtain ⟨listed, missing, -⟩ := mind.asleep asleep
  have lowered : s.board.isRaised = false := by
    by_contra up
    exact h.raised (by simpa using up) v mem asleep
  refine ⟨lowered, listed, ?_⟩
  rw [← Bool.not_eq_true, shows_iff, h.plain, mind.wanted]
  exact missing

end Watched

/-- **No watcher misses its text.** Whatever is put up and at whatever times, and however many
watch at once: a watch ends at the first moment at which its text is on display, if that is within
its time, and gives up exactly when its time is over if its text was not on display until then.
Nobody ends twice, nobody sleeps while its text is on display, and everything that is to be done at
one time comes to an end. -/
theorem watches_kept [IsOrderedAddMonoid τ] {s₀ : Show τ} (opening : s₀.IsOpening)
    (run : Relation.ReflTransGen Step s₀ s) :
    (∀ w ∈ s.watches, s.Keeps w) ∧ (s.ended.map (·.1)).Nodup ∧
      (∀ v ∈ s.board.watchers, v.stand = .asleep →
        s.board.isRaised = false ∧ v.id ∈ s.board.sleepers ∧ s.board.shows v.wanted = false) ∧
      Acc (fun r s : Show τ => s.Work r) s := by
  have h : s.Watched := opening.watched.run run
  exact ⟨fun w hw => h.keeps hw, h.once, fun v mem asleep => h.sleeps mem asleep, h.acc⟩

/-- Nothing is on display, and nobody watches. -/
def vacant : Show ℕ := { clock := 0, board := {} }

/-- One watcher finds a text that is put up in two parts, and another waits in vain. -/
theorem watches_kept_in_parts : vacant.IsOpening ∧ ∃ s, Relation.ReflTransGen Step vacant s ∧
    s.watches = [⟨1, ['a', 'b'], 0, some 5⟩, ⟨2, ['x'], 0, some 3⟩] ∧
    s.ended = [(1, 2, true), (2, 3, false)] ∧ ∀ w ∈ s.watches, s.Keeps w := by
  have opening : vacant.IsOpening := ⟨rfl, rfl, rfl, rfl, rfl, rfl⟩
  -- Both find nothing and go to sleep.
  have run := (((((Relation.ReflTransGen.refl (r := Step) (a := vacant)).tail
    (.begin _ 1 ['a', 'b'] (some 5) (by simp) (by decide) (by decide))).tail
    (.begin _ 2 ['x'] (some 3) (by simp) (by decide) (by decide))).tail
    (.work (.perform (j := .look 1) (by decide)))).tail
    (.work (.perform (j := .look 2) (by decide)))).tail
    (.wait _ 1 (by decide) (by decide) (by decide))
  -- The first part wakes them to no avail.
  have run := (((run.tail
    (.putUp _ [⟨['a'], none⟩])).tail
    (.work (.perform (j := .look 1) (by decide)))).tail
    (.work (.perform (j := .look 2) (by decide)))).tail
    (.wait _ 2 (by decide) (by decide) (by decide))
  -- With the second part one of them has its text.
  have run := (((((run.tail
    (.putUp _ [⟨['b'], none⟩])).tail
    (.work (.perform (j := .look 1) (by decide)))).tail
    (.work (.perform (j := .look 2) (by decide)))).tail
    (.work (.perform (j := .release 1) (by decide)))).tail
    (.work (.perform (j := .conclude 1) (by decide)))).tail
    (.wait _ 3 (by decide) (by decide) (by decide))
  -- The time of the other is over.
  have run := ((((run.tail
    (.work (.ring (a := (3, 2)) (by decide) (by decide)))).tail
    (.work (.perform (j := .conclude 2) (by decide)))).tail
    (.work (.perform (j := .look 2) (by decide)))).tail
    (.work (.perform (j := .release 2) (by decide)))).tail
    (.work (.perform (j := .conclude 2) (by decide)))
  exact ⟨opening, _, run, by rfl, by decide, (watches_kept opening run).1⟩

end ToolHost.Board.Show

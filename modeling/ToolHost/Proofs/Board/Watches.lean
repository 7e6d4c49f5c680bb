import Mathlib
import ToolHost.Board

/-!
# Watching a board

Texts are put up at any times, any number of them at the same time, and any number of watchers wait,
each for a text of its own, for some time or for ever. What is ready runs in any order. Time goes on
when nothing is left to do, and no further than to the next moment at which the time of a watcher is
over.
-/
namespace ToolHost.Board

open Terminal (StyledText)

variable {τ : Type}

/-- The one whom a job is about. -/
def Job.id : Job → CallId
  | look id | release id | conclude id => id

@[simp] theorem Job.id_look (id : CallId) : (look id).id = id := rfl

@[simp] theorem Job.id_release (id : CallId) : (release id).id = id := rfl

@[simp] theorem Job.id_conclude (id : CallId) : (conclude id).id = id := rfl

/-- Who waits, for which text, since when, and for how long if not for ever. -/
structure Watch (τ : Type) where
  id : CallId
  wanted : List Char
  since : τ
  time : Option τ

/-- When the time of a watch is over. -/
def Watch.deadline? [Add τ] (w : Watch τ) : Option τ := w.time.map (w.since + ·)

@[simp] theorem Watch.deadline?_mk [Add τ] (id : CallId) (wanted : List Char) (since : τ)
    (time : Option τ) :
    (⟨id, wanted, since, time⟩ : Watch τ).deadline? = time.map (since + ·) := rfl

/-- A board over time, with what is ready to run and what was seen of it so far. -/
structure Show (τ : Type) where
  clock : τ
  board : Board
  ready : List Job := []
  /-- When somebody's time is over. -/
  alarms : List (τ × CallId) := []
  /-- All watches that have begun. -/
  watches : List (Watch τ) := []
  /-- The text on display in the beginning. -/
  before : List Char := board.plain
  /-- What was put up since, and when. -/
  log : List (τ × StyledText) := []
  /-- The watches that ended, when, and whether they found their texts. -/
  ended : List (CallId × τ × Bool) := []

namespace Show

section Actions

variable [LinearOrder τ] (s : Show τ)

/-- The text on display at some time, be it in several parts. -/
def text (t : τ) : List Char := s.before ++ (s.log.filter (·.1 ≤ t)).flatMap (·.2.plain)

/-- Whether a text is on display at some time. -/
def Contains (t : τ) (wanted : List Char) : Prop := wanted <:+: s.text t

/-- What a step of the board brings about. Nobody whose watch has ended has an alarm. -/
def absorb (t : Turn) : Show τ :=
  { s with
    board := t.board
    ready := s.ready ++ t.jobs
    alarms := s.alarms.filter fun a => t.ended.all (·.1 != a.2)
    ended := s.ended ++ (t.ended.map fun x => (x.1, s.clock, x.2)).toList }

def putUp (text : StyledText) : Show τ :=
  { s.absorb (s.board.append text) with log := s.log ++ [(s.clock, text)] }

def begin [Add τ] (id : CallId) (wanted : List Char) (time : Option τ) : Show τ :=
  let w : Watch τ := ⟨id, wanted, s.clock, time⟩
  { s.absorb (s.board.watch id wanted true) with
    watches := s.watches ++ [w]
    alarms := s.alarms ++ (w.deadline?.map (·, id)).toList }

def perform (j : Job) : Show τ :=
  { s with ready := s.ready.erase j }.absorb (s.board.perform j)

/-- The time of somebody is over. -/
def ring (a : τ × CallId) : Show τ :=
  { s with alarms := s.alarms.erase a }.absorb (s.board.release a.2)

/-- What can be done without anything from outside and without any time. -/
inductive Work : Show τ → Prop
  | perform {j : Job} (ready : j ∈ s.ready) : Work (s.perform j)
  | ring {a : τ × CallId} (alarm : a ∈ s.alarms) (due : a.1 ≤ s.clock) : Work (s.ring a)

/-- Nobody watches, and nothing was seen yet. -/
structure IsOpening : Prop where
  watchers : s.board.watchers = []
  alarms : s.alarms = []
  watches : s.watches = []
  before : s.before = s.board.plain
  log : s.log = []
  ended : s.ended = []

end Actions

inductive Step [AddCommMonoid τ] [LinearOrder τ] : Show τ → Show τ → Prop
  | putUp (s : Show τ) (text : StyledText) : Step s (s.putUp text)
  | begin (s : Show τ) (id : CallId) (wanted : List Char) (time : Option τ)
      (positive : ∀ length, time = some length → 0 < length)
      (fresh : ∀ w ∈ s.watches, w.id ≠ id) (unknown : ∀ j ∈ s.ready, j.id ≠ id) :
      Step s (s.begin id wanted time)
  | work {s r : Show τ} (work : s.Work r) : Step s r
  | wait (s : Show τ) (t : τ) (later : s.clock < t) (idle : s.ready = [])
      (alarms : ∀ a ∈ s.alarms, t ≤ a.1) : Step s { s with clock := t }

end Show

/-! ## Texts -/

theorem occurs_iff (wanted text : List Char) : occurs wanted text = true ↔ wanted <:+: text := by
  induction text with
  | nil => simp [occurs, List.infix_nil]
  | cons c rest ih =>
    rw [occurs, Bool.or_eq_true, List.isPrefixOf_iff_prefix, ih, List.infix_cons_iff]

theorem shows_iff (b : Board) (wanted : List Char) :
    b.shows wanted = true ↔ wanted <:+: b.plain := occurs_iff wanted b.plain

theorem plain_append (b : Board) (t : StyledText) :
    (b.append t).board.plain = b.plain ++ t.plain := by
  unfold append
  simp only
  split <;> simp [plain]

namespace Show

section Texts

variable [LinearOrder τ] {s r : Show τ}

/-- What was on display is on display later, with more behind it, and the past stays as it was. -/
structure Extends (s r : Show τ) : Prop where
  past : ∀ t < s.clock, r.text t = s.text t
  more : ∀ t, s.text t <+: r.text t

theorem Extends.of_eq (before : r.before = s.before) (log : r.log = s.log) : s.Extends r := by
  have same : r.text = s.text := by
    funext t
    simp only [text, before, log]
  exact ⟨fun t _ => by rw [same], fun t => by rw [same]⟩

theorem Extends.contains (h : s.Extends r) {t : τ} {wanted : List Char}
    (contains : s.Contains t wanted) : r.Contains t wanted := contains.trans (h.more t).isInfix

theorem Extends.contains_past (h : s.Extends r) {t : τ} (past : t < s.clock)
    {wanted : List Char} : r.Contains t wanted ↔ s.Contains t wanted := by
  rw [Contains, Contains, h.past t past]

/-- From the last time on at which something was put up, the text is the same. -/
theorem text_of_le (log : ∀ x ∈ s.log, x.1 ≤ s.clock) {t : τ} (ht : s.clock ≤ t) :
    s.text t = s.text s.clock := by
  have all (u : τ) (hu : s.clock ≤ u) : s.log.filter (·.1 ≤ u) = s.log :=
    List.filter_eq_self.mpr fun x hx => by simpa using (log x hx).trans hu
  rw [text, text, all t ht, all s.clock le_rfl]

theorem contains_of_le (log : ∀ x ∈ s.log, x.1 ≤ s.clock) {t : τ} (ht : s.clock ≤ t)
    {wanted : List Char} : s.Contains t wanted ↔ s.Contains s.clock wanted := by
  rw [Contains, Contains, text_of_le log ht]

theorem text_putUp (s : Show τ) (x : StyledText) (t : τ) :
    (s.putUp x).text t = s.text t ++ if s.clock ≤ t then x.plain else [] := by
  simp only [text, putUp, absorb, List.filter_append, List.flatMap_append, List.append_assoc]
  by_cases h : s.clock ≤ t <;> simp [h]

theorem extends_putUp (s : Show τ) (x : StyledText) : s.Extends (s.putUp x) where
  past t ht := by
    rw [text_putUp, if_neg (not_le.mpr ht), List.append_nil]
  more t := by
    rw [text_putUp]
    exact List.prefix_append _ _

end Texts

/-! ## What is known of a watcher -/

variable [AddCommMonoid τ] [LinearOrder τ] {s r : Show τ} {w : Watch τ} {v : Watcher}

/-- The time of a watch is over just now. -/
def IsOver (s : Show τ) (w : Watch τ) : Prop := w.deadline? = some s.clock

/-- A watcher stands for a watch: it has missed nothing, it is awake if it is to look, and it is
told to give up when its time is over and no sooner. -/
structure Minds (s : Show τ) (w : Watch τ) (v : Watcher) : Prop where
  wanted : v.wanted = w.wanted
  since : w.since ≤ s.clock
  early : ∀ t, w.since ≤ t → t < s.clock → ¬ s.Contains t w.wanted
  awake : v.stand = .awake → .look v.id ∈ s.ready
  asleep : v.stand = .asleep →
    v.id ∈ s.board.sleepers ∧ ¬ s.Contains s.clock w.wanted ∧ v.isDismissed = false
  found : v.stand = .found → s.Contains s.clock w.wanted
  gaveUp : v.stand = .gaveUp → v.isDismissed
  ends : v.stand = .found ∨ v.stand = .gaveUp → v.isReleased ∨ .release v.id ∈ s.ready
  told : .release v.id ∈ s.ready → v.stand = .found ∨ v.stand = .gaveUp
  concludes : s.ready.count (.conclude v.id) = v.isReleased.toNat
  released : v.isReleased → (v.stand = .found ∨ v.stand = .gaveUp) ∨ s.IsOver w
  dismissed : v.isDismissed → s.IsOver w
  alarm : ∀ t, w.deadline? = some t →
    (t, v.id) ∈ s.alarms ∨ s.IsOver w ∧ (v.isReleased ∨ v.isDismissed)

/-- A watch has ended as it should. -/
structure Ended (s : Show τ) (w : Watch τ) (e : τ) (isFound : Bool) : Prop where
  since : w.since ≤ e
  past : e ≤ s.clock
  early : ∀ t, w.since ≤ t → t < e → ¬ s.Contains t w.wanted
  found : isFound = true → s.Contains e w.wanted ∧ ∀ t, w.deadline? = some t → e ≤ t
  gaveUp : isFound = false → w.deadline? = some e

/-- What holds of a board over time: every watch has its watcher or has ended, nobody sleeps while
the flag is up, and no alarm is missed. -/
structure Watched (s : Show τ) : Prop where
  watchers : (s.board.watchers.map (·.id)).Nodup
  minds : ∀ v ∈ s.board.watchers, ∃ w ∈ s.watches, w.id = v.id ∧ s.Minds w v
  distinct : (s.watches.map (·.id)).Nodup
  known : ∀ w ∈ s.watches,
    (∃ v ∈ s.board.watchers, v.id = w.id) ∨ ∃ e isFound, (w.id, e, isFound) ∈ s.ended
  ended : ∀ x ∈ s.ended, (∀ v ∈ s.board.watchers, v.id ≠ x.1) ∧
    ∃ w ∈ s.watches, w.id = x.1 ∧ s.Ended w x.2.1 x.2.2
  once : (s.ended.map (·.1)).Nodup
  plain : s.board.plain = s.text s.clock
  log : ∀ x ∈ s.log, x.1 ≤ s.clock
  raised : s.board.isRaised → ∀ v ∈ s.board.watchers, v.stand ≠ .asleep
  alarms : ∀ a ∈ s.alarms, s.clock ≤ a.1 ∧
    ∃ w ∈ s.watches, w.id = a.2 ∧ w.deadline? = some a.1

theorem IsOpening.watched (h : s.IsOpening) : s.Watched where
  watchers := by simp [h.watchers]
  minds := by simp [h.watchers]
  distinct := by simp [h.watches]
  known := by simp [h.watches]
  ended := by simp [h.ended]
  once := by simp [h.ended]
  plain := by simp [text, h.log, h.before]
  log := by simp [h.log]
  raised := by simp [h.watchers]
  alarms := by simp [h.alarms]

theorem Ended.later {e : τ} {isFound : Bool} (h : s.Ended w e isFound) (texts : s.Extends r)
    (later : s.clock ≤ r.clock) : r.Ended w e isFound where
  since := h.since
  past := h.past.trans later
  early t since ht := by
    rw [texts.contains_past (ht.trans_le h.past)]
    exact h.early t since ht
  found hf := ⟨texts.contains (h.found hf).1, (h.found hf).2⟩
  gaveUp := h.gaveUp

/-- A watcher that a step is not about. -/
theorem Minds.keep (h : s.Minds w v) {board : Board} {ready : List Job}
    {alarms : List (τ × CallId)} {watches : List (Watch τ)} {ended : List (CallId × τ × Bool)}
    (jobs : ∀ j : Job, j.id = v.id → ready.count j = s.ready.count j)
    (sleepers : v.id ∈ s.board.sleepers → v.id ∈ board.sleepers)
    (subset : ∀ t, (t, v.id) ∈ s.alarms → (t, v.id) ∈ alarms) :
    ({ s with board, ready, alarms, watches, ended } : Show τ).Minds w v := by
  have same (j : Job) (hj : j.id = v.id) : j ∈ ready ↔ j ∈ s.ready := by
    rw [← List.count_pos_iff, ← List.count_pos_iff, jobs j hj]
  exact { h with
    awake := fun hv => (same _ rfl).mpr (h.awake hv)
    asleep := fun hv => ⟨sleepers (h.asleep hv).1, (h.asleep hv).2⟩
    ends := fun hv => (h.ends hv).imp_right (same _ rfl).mpr
    told := fun hv => h.told ((same _ rfl).mp hv)
    concludes := (jobs _ rfl).trans h.concludes
    alarm := fun t ht => (h.alarm t ht).imp_left (subset t) }

/-- A step after which the same watches go on, with watchers in the place of those before. -/
theorem Watched.next (h : s.Watched) (later : s.clock ≤ r.clock) (texts : s.Extends r)
    (watches : r.watches = s.watches) (ended : r.ended = s.ended) (f : Watcher → Watcher)
    (ids : ∀ v, (f v).id = v.id) (watchers : r.board.watchers = s.board.watchers.map f)
    (plain : r.board.plain = r.text r.clock) (log : ∀ x ∈ r.log, x.1 ≤ r.clock)
    (raised : r.board.isRaised → ∀ v ∈ s.board.watchers, (f v).stand ≠ .asleep)
    (alarms : ∀ a ∈ r.alarms, a ∈ s.alarms ∧ r.clock ≤ a.1)
    (minds : ∀ v ∈ s.board.watchers, ∀ w ∈ s.watches, w.id = v.id → s.Minds w v →
      r.Minds w (f v)) : r.Watched where
  watchers := by
    have same : r.board.watchers.map (·.id) = s.board.watchers.map (·.id) := by
      rw [watchers, List.map_map]
      exact List.map_congr_left fun v _ => ids v
    rw [same]
    exact h.watchers
  minds := by
    rw [watchers, watches]
    intro v hv
    obtain ⟨u, hu, rfl⟩ := List.mem_map.mp hv
    obtain ⟨w, hw, id, mind⟩ := h.minds u hu
    exact ⟨w, hw, id.trans (ids u).symm, minds u hu w hw id mind⟩
  distinct := watches ▸ h.distinct
  known := by
    rw [watchers, watches, ended]
    intro w hw
    refine (h.known w hw).imp_left ?_
    rintro ⟨v, hv, id⟩
    exact ⟨f v, List.mem_map_of_mem hv, (ids v).trans id⟩
  ended := by
    rw [watchers, watches, ended]
    intro x hx
    obtain ⟨gone, w, hw, id, he⟩ := h.ended x hx
    refine ⟨fun v hv => ?_, w, hw, id, he.later texts later⟩
    obtain ⟨u, hu, rfl⟩ := List.mem_map.mp hv
    rw [ids u]
    exact gone u hu
  once := ended ▸ h.once
  plain := plain
  log := log
  raised up v hv := by
    rw [watchers] at hv
    obtain ⟨u, hu, rfl⟩ := List.mem_map.mp hv
    exact raised up u hu
  alarms a ha := by
    rw [watches]
    exact ⟨(alarms a ha).2, (h.alarms a (alarms a ha).1).2⟩

end Show

end ToolHost.Board

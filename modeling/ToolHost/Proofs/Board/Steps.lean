import ToolHost.Proofs.Board.Moves

/-!
# No step loses a watcher

Whatever is put up, whoever begins to watch, whatever runs and however time goes on: every watch has
its watcher or has ended as it should.
-/
namespace ToolHost.Board.Show

open Terminal (StyledText)

section Jobs

variable {id : CallId} {j k : Job}

theorem count_kept {ready jobs : List Job} (hj : k ≠ j) (new : k ∉ jobs) :
    (ready.erase j ++ jobs).count k = ready.count k := by
  rw [List.count_append, List.count_eq_zero.mpr new, List.count_erase_of_ne hj, Nat.add_zero]

/-- What becomes ready for one watcher is nothing to the others. -/
theorem count_other {ready jobs : List Job} (hj : j.id = id) (new : ∀ x ∈ jobs, x.id = id)
    (hk : k.id ≠ id) : (ready.erase j ++ jobs).count k = ready.count k := by
  refine count_kept ?_ fun hx => hk (new k hx)
  rintro rfl
  exact hk hj

end Jobs

variable {τ : Type} [AddCommMonoid τ] [LinearOrder τ] {s r : Show τ} {w : Watch τ} {v : Watcher}
  {id : CallId} {j : Job}

namespace Watched

/-- Two watches of one name are the same. -/
theorem eq_of_watch (h : s.Watched) {x : Watch τ} (hx : x ∈ s.watches) (hw : w ∈ s.watches)
    (same : x.id = w.id) : x = w :=
  List.inj_on_of_nodup_map h.distinct hx hw same

/-- Two watchers of one name are the same. -/
theorem eq_of_watcher (h : s.Watched) {x : Watcher} (hx : x ∈ s.board.watchers)
    (hv : v ∈ s.board.watchers) (same : x.id = v.id) : x = v :=
  List.inj_on_of_nodup_map h.watchers hx hv same

/-- A step that is about one watcher. -/
theorem revise (h : s.Watched) (mem : v ∈ s.board.watchers) (u : Watcher) (same : u.id = v.id)
    {board : Board} {ready : List Job} {alarms : List (τ × CallId)}
    (watchers : board.watchers = (s.board.setWatcher u).watchers)
    (texts : board.texts = s.board.texts)
    (jobs : ∀ k : Job, k.id ≠ v.id → ready.count k = s.ready.count k)
    (sleepers : ∀ i ∈ s.board.sleepers, i ≠ v.id → i ∈ board.sleepers)
    (subset : ∀ a ∈ alarms, a ∈ s.alarms) (others : ∀ a ∈ s.alarms, a.2 ≠ v.id → a ∈ alarms)
    (raised : board.isRaised → s.board.isRaised ∧ u.stand ≠ .asleep)
    (mind : ∀ w ∈ s.watches, w.id = v.id → s.Minds w v →
      ({ s with board, ready, alarms } : Show τ).Minds w u) :
    ({ s with board, ready, alarms } : Show τ).Watched := by
  refine h.next le_rfl (.of_eq rfl rfl) rfl rfl (fun x => if x.id = u.id then u else x) ?_
    watchers ?_ h.log ?_ (fun a ha => ⟨subset a ha, (h.alarms a (subset a ha)).1⟩) ?_
  · intro x
    split
    next hx => exact hx.symm
    next => rfl
  · rw [Board.plain, texts]
    exact h.plain
  · intro up x hx
    split
    · exact (raised up).2
    · exact h.raised (raised up).1 x hx
  · intro x hx w hw id mx
    split
    next hxu =>
      obtain rfl := h.eq_of_watcher hx mem (hxu.trans same)
      exact mind w hw id mx
    next hxu =>
      have ne : x.id ≠ v.id := same ▸ hxu
      exact mx.keep (fun k hk => jobs k (hk ▸ ne)) (sleepers x.id · ne)
        fun t ht => others _ ht ne

/-- A step after which every watcher is as it was. -/
theorem pass (h : s.Watched) {ready : List Job} {alarms : List (τ × CallId)}
    (subset : ∀ a ∈ alarms, a ∈ s.alarms)
    (minds : ∀ v ∈ s.board.watchers, ∀ w ∈ s.watches, w.id = v.id → s.Minds w v →
      ({ s with ready, alarms } : Show τ).Minds w v) :
    ({ s with ready, alarms } : Show τ).Watched :=
  h.next le_rfl (.of_eq rfl rfl) rfl rfl (fun v => v) (fun _ => rfl) (List.map_id' _).symm h.plain
    h.log h.raised (fun a ha => ⟨subset a ha, (h.alarms a (subset a ha)).1⟩) minds

end Watched

/-! ## Jobs -/

namespace Watched

/-- A job that is about one watcher. -/
theorem turn (h : s.Watched) (mem : v ∈ s.board.watchers) (u : Watcher) (same : u.id = v.id)
    (about : j.id = v.id) {board : Board} {jobs : List Job}
    (watchers : board.watchers = (s.board.setWatcher u).watchers)
    (texts : board.texts = s.board.texts) (new : ∀ k ∈ jobs, k.id = v.id)
    (sleepers : ∀ i ∈ s.board.sleepers, i ≠ v.id → i ∈ board.sleepers)
    (raised : board.isRaised → s.board.isRaised ∧ u.stand ≠ .asleep)
    (mind : ∀ w, s.Minds w v →
      ({ s with board, ready := s.ready.erase j ++ jobs } : Show τ).Minds w u) :
    ({ s with board, ready := s.ready.erase j ++ jobs } : Show τ).Watched :=
  h.revise mem u same watchers texts (fun _ hk => count_other about new hk) sleepers
    (fun _ ha => ha) (fun _ ha _ => ha) raised fun w _ _ => mind w

end Watched

namespace Minds

theorem drop (h : s.Minds w v) (look : j = .look v.id → v.stand ≠ .awake)
    (release : j = .release v.id → v.isReleased) (conclude : j ≠ .conclude v.id) :
    ({ s with ready := s.ready.erase j } : Show τ).Minds w v :=
  { h with
    awake := fun hv => (List.mem_erase_of_ne fun e => look e.symm hv).mpr (h.awake hv)
    ends := fun hv => by
      by_cases hj : j = .release v.id
      · exact .inl (release hj)
      · exact (h.ends hv).imp_right (List.mem_erase_of_ne (Ne.symm hj)).mpr
    told := fun hv => h.told (List.mem_of_mem_erase hv)
    concludes := (List.count_erase_of_ne conclude.symm).trans h.concludes }

theorem looked (h : s.Minds w v) {jobs : List Job} (new : .conclude v.id ∉ jobs) :
    (s.ready.erase (.look v.id) ++ jobs).count (.conclude v.id) = v.isReleased.toNat :=
  (count_kept (by simp) new).trans h.concludes

variable {board : Board}

theorem giveUp (h : s.Minds w v) (dismissed : v.isDismissed) :
    ({ s with board, ready := s.ready.erase (.look v.id) ++ [.release v.id] } : Show τ).Minds w
      { v with stand := .gaveUp } :=
  { h with
    awake := nofun
    asleep := nofun
    found := nofun
    gaveUp := fun _ => dismissed
    ends := fun _ => .inr (List.mem_append_right _ (List.mem_singleton_self _))
    told := fun _ => .inr rfl
    concludes := h.looked (by simp)
    released := fun _ => .inl (.inr rfl) }

theorem find (h : s.Minds w v) (shown : s.Contains s.clock w.wanted) :
    ({ s with board, ready := s.ready.erase (.look v.id) ++ [.release v.id] } : Show τ).Minds w
      { v with stand := .found } :=
  { h with
    awake := nofun
    asleep := nofun
    found := fun _ => shown
    gaveUp := nofun
    ends := fun _ => .inr (List.mem_append_right _ (List.mem_singleton_self _))
    told := fun _ => .inl rfl
    concludes := h.looked (by simp)
    released := fun _ => .inl (.inl rfl) }

theorem fallAsleep (h : s.Minds w v) (awake : v.stand = .awake)
    (undismissed : v.isDismissed = false) (missing : ¬ s.Contains s.clock w.wanted)
    (listed : v.id ∈ board.sleepers) :
    ({ s with board, ready := s.ready.erase (.look v.id) ++ [] } : Show τ).Minds w
      { v with stand := .asleep } := by
  have goesOn : ¬ (v.stand = .found ∨ v.stand = .gaveUp) := by simp [awake]
  exact { h with
    awake := nofun
    asleep := fun _ => ⟨listed, missing, undismissed⟩
    found := nofun
    gaveUp := nofun
    ends := nofun
    told := fun hr =>
      (goesOn (h.told (List.mem_of_mem_erase (List.append_nil _ ▸ hr)))).elim
    concludes := h.looked (by simp)
    released := fun hr => .inr ((h.released hr).resolve_left goesOn) }

theorem release (h : s.Minds w v) (ready : .release v.id ∈ s.ready)
    (unreleased : v.isReleased = false) (sleepers : board.sleepers = s.board.sleepers) :
    ({ s with board, ready := s.ready.erase (.release v.id) ++ [.conclude v.id] } : Show τ).Minds w
      { v with isReleased := true } :=
  { h with
    awake := fun hv => by
      have stays := (List.mem_erase_of_ne (b := .release v.id) (by simp)).mpr (h.awake hv)
      exact List.mem_append_left _ stays
    asleep := fun hv => ⟨sleepers ▸ (h.asleep hv).1, (h.asleep hv).2⟩
    ends := fun _ => .inl rfl
    told := fun _ => h.told ready
    concludes := by
      have none := h.concludes
      rw [unreleased] at none
      simpa using none
    released := fun _ => .inl (h.told ready)
    alarm := fun t ht => (h.alarm t ht).imp_right fun ⟨isOver, _⟩ => ⟨isOver, .inl rfl⟩ }

/-- Whoever goes on for a watcher was told to. -/
theorem isReleased (h : s.Minds w v) (ready : .conclude v.id ∈ s.ready) :
    v.isReleased = true ∧ s.ready.count (.conclude v.id) = 1 := by
  have count := h.concludes
  have positive := List.count_pos_iff.mpr ready
  cases released : v.isReleased with
  | true => exact ⟨rfl, by rw [count, released]; rfl⟩
  | false =>
    rw [count, released] at positive
    exact absurd positive (lt_irrefl 0)

/-- A watcher is told to give up, and is awake then. -/
theorem dismiss (h : s.Minds w v) (ready : .conclude v.id ∈ s.ready)
    (goesOn : ¬ (v.stand = .found ∨ v.stand = .gaveUp)) {jobs : List Job}
    (new : ∀ k ∈ jobs, k = .look v.id)
    (looks : .look v.id ∈ s.ready.erase (.conclude v.id) ++ jobs) :
    ({ s with board, ready := s.ready.erase (.conclude v.id) ++ jobs } : Show τ).Minds w
      { v with isDismissed := true, isReleased := false, stand := .awake } := by
  obtain ⟨released, count⟩ := h.isReleased ready
  have now : s.IsOver w := (h.released released).resolve_left goesOn
  exact { h with
    awake := fun _ => looks
    asleep := nofun
    found := nofun
    gaveUp := fun _ => rfl
    ends := nofun
    told := fun hr => by
      obtain hr | hr := List.mem_append.mp hr
      · exact (goesOn (h.told (List.mem_of_mem_erase hr))).elim
      · cases new _ hr
    concludes := by
      have none : jobs.count (.conclude v.id) = 0 :=
        List.count_eq_zero.mpr fun hk => by cases new _ hk
      rw [List.count_append, none, List.count_erase_self, count]
      rfl
    released := nofun
    dismissed := fun _ => now
    alarm := fun _ _ => .inr ⟨now, .inr rfl⟩ }

end Minds

namespace Watched

/-- A job that has come to nothing. -/
theorem drop (h : s.Watched)
    (drops : ∀ v ∈ s.board.watchers, (j = .look v.id → v.stand ≠ .awake) ∧
      (j = .release v.id → v.isReleased) ∧ j ≠ .conclude v.id) :
    ({ s with ready := s.ready.erase j } : Show τ).Watched :=
  h.pass (fun _ ha => ha) fun v hv _ _ _ mind =>
    mind.drop (drops v hv).1 (drops v hv).2.1 (drops v hv).2.2

theorem drop_of_none (h : s.Watched) (none : s.board.watcher? j.id = none) :
    ({ s with ready := s.ready.erase j } : Show τ).Watched := by
  refine h.drop fun v hv => ?_
  have ne := ne_of_watcher? none v hv
  refine ⟨?_, ?_, ?_⟩
  all_goals
    rintro rfl
    exact absurd rfl ne

theorem shows_iff_contains (h : s.Watched) (mind : s.Minds w v) :
    s.board.shows v.wanted = true ↔ s.Contains s.clock w.wanted := by
  rw [shows_iff, mind.wanted, h.plain, Contains]

theorem look (h : s.Watched) (id : CallId) : (s.perform (.look id)).Watched := by
  cases hv : s.board.watcher? id with
  | none =>
    rw [perform_of_none hv]
    exact h.drop_of_none hv
  | some v =>
    obtain ⟨mem, rfl⟩ := mem_of_watcher? hv
    by_cases awake : v.stand = .awake
    · cases dismissed : v.isDismissed with
      | true =>
        rw [look_gaveUp hv awake dismissed]
        exact h.turn mem { v with stand := .gaveUp } rfl rfl rfl rfl (by simp) (fun _ hi _ => hi)
          (fun up => ⟨up, nofun⟩) fun w mind => mind.giveUp dismissed
      | false =>
        cases shows : s.board.shows v.wanted with
        | true =>
          rw [look_found hv awake dismissed shows]
          exact h.turn mem { v with stand := .found } rfl rfl rfl rfl (by simp) (fun _ hi _ => hi)
            (fun up => ⟨up, nofun⟩) fun w mind => mind.find ((h.shows_iff_contains mind).mp shows)
        | false =>
          rw [look_asleep hv awake dismissed shows]
          refine h.turn mem { v with stand := .asleep } rfl rfl rfl rfl (by simp)
            (fun _ hi _ => List.mem_append_left _ hi) nofun fun w mind => ?_
          refine mind.fallAsleep awake dismissed (fun shown => ?_) (by simp)
          rw [(h.shows_iff_contains mind).mpr shown] at shows
          cases shows
    · rw [look_idle hv awake]
      refine h.drop fun x hx => ⟨fun e => ?_, nofun, nofun⟩
      obtain rfl := h.eq_of_watcher hx mem (Job.look.inj e).symm
      exact awake

theorem release (h : s.Watched) {id : CallId} (ready : .release id ∈ s.ready) :
    (s.perform (.release id)).Watched := by
  cases hv : s.board.watcher? id with
  | none =>
    rw [perform_of_none hv]
    exact h.drop_of_none hv
  | some v =>
    obtain ⟨mem, rfl⟩ := mem_of_watcher? hv
    cases released : v.isReleased with
    | true =>
      rw [release_idle hv released]
      refine h.drop fun x hx => ⟨nofun, fun e => ?_, nofun⟩
      obtain rfl := h.eq_of_watcher hx mem (Job.release.inj e).symm
      exact released
    | false =>
      rw [release_eq hv released]
      exact h.turn mem { v with isReleased := true } rfl rfl rfl rfl (by simp) (fun _ hi _ => hi)
        (fun up => ⟨up, h.raised up v mem⟩) fun w mind => mind.release ready released rfl

/-- Somebody's alarm goes off when the time of the watch is over. -/
theorem due (h : s.Watched) {a : τ × CallId} (alarm : a ∈ s.alarms) (due : a.1 ≤ s.clock)
    {w : Watch τ} (hw : w ∈ s.watches) (id : w.id = a.2) : w.deadline? = some s.clock := by
  obtain ⟨notPast, x, hx, hxa, deadline⟩ := h.alarms a alarm
  obtain rfl := h.eq_of_watch hx hw (hxa.trans id.symm)
  exact due.antisymm notPast ▸ deadline

theorem ring (h : s.Watched) {a : τ × CallId} (alarm : a ∈ s.alarms) (due : a.1 ≤ s.clock) :
    (s.ring a).Watched := by
  cases hv : s.board.watcher? a.2 with
  | none =>
    rw [ring_of_none hv]
    refine h.pass (fun x hx => List.mem_of_mem_erase hx) fun v hv' w _ _ mind => ?_
    refine mind.keep (fun _ _ => rfl) (fun hi => hi) fun t ht => ?_
    refine (List.mem_erase_of_ne ?_).mpr ht
    rintro rfl
    exact ne_of_watcher? hv v hv' rfl
  | some v =>
    obtain ⟨mem, id⟩ := mem_of_watcher? hv
    cases released : v.isReleased with
    | true =>
      rw [ring_idle hv released]
      refine h.pass (fun x hx => List.mem_of_mem_erase hx) fun x hx w hw hwx mind => ?_
      by_cases hxv : x = v
      · subst hxv
        exact { mind with
          alarm := fun _ _ => .inr ⟨h.due alarm due hw (hwx.trans id), .inl released⟩ }
      · refine mind.keep (fun _ _ => rfl) (fun hi => hi) fun t ht => ?_
        refine (List.mem_erase_of_ne ?_).mpr ht
        rintro rfl
        exact hxv (h.eq_of_watcher hx mem id.symm)
    | false =>
      rw [ring_eq hv released, ← id]
      refine h.revise mem { v with isReleased := true } rfl rfl rfl
        (fun k hk => ?_) (fun _ hi _ => hi) (fun x hx => List.mem_of_mem_erase hx)
        (fun x hx ne => (List.mem_erase_of_ne ?_).mpr hx) ?_ fun w hw hwv mind => { mind with
          awake := fun hv => List.mem_append_left _ (mind.awake hv)
          ends := fun _ => .inl rfl
          told := fun hr => mind.told (by simpa using hr)
          concludes := by
            have := mind.concludes
            simp only [released, Bool.toNat_false] at this
            simp [this]
          released := fun _ => .inr (h.due alarm due hw (hwv.trans id))
          alarm := fun _ _ => .inr ⟨h.due alarm due hw (hwv.trans id), .inl rfl⟩ }
      · have ne : k ≠ .conclude v.id := by
          rintro rfl
          exact hk rfl
        simp [ne.symm]
      · rintro rfl
        exact ne id.symm
      · exact fun up => ⟨up, h.raised up v mem⟩

/-- The time of a watch that goes on is not over yet, or just now. -/
theorem le_deadline (h : s.Watched) (mind : s.Minds w v) {t : τ} (deadline : w.deadline? = some t) :
    s.clock ≤ t := by
  obtain alarm | ⟨now, -⟩ := mind.alarm t deadline
  · exact (h.alarms _ alarm).1
  · exact (Option.some_inj.mp (now.symm.trans deadline)).le

/-- A watch ends. -/
theorem leave (h : s.Watched) (mem : v ∈ s.board.watchers) {isFound : Bool}
    (stand : v.stand = if isFound then .found else .gaveUp) :
    ({ s with
        board := { s.board with watchers := s.board.watchers.filter (·.id != v.id) }
        ready := s.ready.erase (.conclude v.id) ++ []
        alarms := s.alarms.filter (v.id != ·.2)
        ended := s.ended ++ [(v.id, s.clock, isFound)] } : Show τ).Watched := by
  obtain ⟨w, hw, hwv, mind⟩ := h.minds v mem
  have stays {x : Watcher} : x ∈ s.board.watchers.filter (·.id != v.id) ↔
      x ∈ s.board.watchers ∧ x.id ≠ v.id := by
    simp
  exact { h with
    watchers := h.watchers.sublist (List.filter_sublist.map _)
    minds := fun x hx => by
      obtain ⟨hx, ne⟩ := stays.mp hx
      obtain ⟨wx, hwx, id, mx⟩ := h.minds x hx
      refine ⟨wx, hwx, id, mx.keep (fun k hk => ?_) (fun hi => hi) fun t ht => ?_⟩
      · exact count_other rfl (by simp) (hk ▸ ne)
      · simpa using ⟨ht, ne.symm⟩
    known := fun u hu => by
      by_cases same : u.id = v.id
      · exact .inr ⟨s.clock, isFound, by simp [same]⟩
      · refine (h.known u hu).imp ?_ ?_
        · rintro ⟨x, hx, id⟩
          exact ⟨x, stays.mpr ⟨hx, id ▸ same⟩, id⟩
        · rintro ⟨e, b, he⟩
          exact ⟨e, b, List.mem_append_left _ he⟩
    ended := fun x hx => by
      obtain hx | hx := List.mem_append.mp hx
      · obtain ⟨gone, u, hu, id, ended⟩ := h.ended x hx
        exact ⟨fun y hy => gone y (stays.mp hy).1, u, hu, id,
          ended.later (.of_eq rfl rfl) le_rfl⟩
      · obtain rfl := List.mem_singleton.mp hx
        refine ⟨fun y hy => (stays.mp hy).2, w, hw, hwv, mind.since, le_rfl, mind.early, ?_, ?_⟩
        · rintro rfl
          exact ⟨mind.found stand, fun t => h.le_deadline mind⟩
        · rintro rfl
          exact mind.dismissed (mind.gaveUp stand)
    once := by
      rw [List.map_append, List.nodup_append]
      refine ⟨h.once, List.nodup_singleton _, ?_⟩
      intro i hi k hk
      obtain ⟨x, hx, rfl⟩ := List.mem_map.mp hi
      obtain rfl := List.mem_singleton.mp hk
      exact ((h.ended x hx).1 v mem).symm
    raised := fun up x hx => h.raised up x (stays.mp hx).1
    alarms := fun a ha => h.alarms a (List.mem_of_mem_filter ha) }

theorem conclude (h : s.Watched) {id : CallId} (ready : .conclude id ∈ s.ready) :
    (s.perform (.conclude id)).Watched := by
  cases hv : s.board.watcher? id with
  | none =>
    rw [perform_of_none hv]
    exact h.drop_of_none hv
  | some v =>
    obtain ⟨mem, rfl⟩ := mem_of_watcher? hv
    cases stand : v.stand with
    | found =>
      rw [conclude_ended hv true stand]
      exact h.leave mem stand
    | gaveUp =>
      rw [conclude_ended hv false stand]
      exact h.leave mem stand
    | awake =>
      rw [conclude_awake hv stand]
      refine h.turn mem { v with isDismissed := true, isReleased := false } rfl rfl rfl rfl
        (by simp) (fun _ hi _ => hi) (fun up => ⟨up, h.raised up v mem⟩) fun w mind => ?_
      have looks : .look v.id ∈ s.ready.erase (.conclude v.id) ++ [] :=
        List.mem_append_left _ ((List.mem_erase_of_ne (by simp)).mpr (mind.awake stand))
      have same : { v with isDismissed := true, isReleased := false } =
          { v with isDismissed := true, isReleased := false, stand := .awake } := by
        rw [stand]
      rw [same]
      exact mind.dismiss ready (by simp [stand]) nofun looks
    | asleep =>
      rw [conclude_asleep hv stand]
      refine h.turn mem { v with isDismissed := true, isReleased := false, stand := .awake } rfl rfl
        rfl rfl (by simp) (fun i hi ne => by simpa using ⟨hi, ne⟩)
        (fun up => absurd stand (h.raised up v mem)) fun w mind => ?_
      exact mind.dismiss ready (by simp [stand]) (by simp) (by simp)

theorem work (h : s.Watched) (work : s.Work r) : r.Watched := by
  cases work with
  | @perform j ready =>
    cases j with
    | look id => exact h.look id
    | release id => exact h.release ready
    | conclude id => exact h.conclude ready
  | ring alarm due => exact h.ring alarm due

end Watched

/-! ## Texts -/

theorem append_jobs {b : Board} {x : StyledText} (hj : j ∈ (b.append x).jobs) :
    ∃ i, j = .look i := by
  rw [append] at hj
  dsimp only at hj
  split at hj
  · exact absurd hj List.not_mem_nil
  · obtain ⟨i, -, rfl⟩ := List.mem_map.mp hj
    exact ⟨i, rfl⟩

/-- A watcher that is not asleep goes on as before when a text is put up. -/
theorem Minds.putUp (h : s.Minds w v) (notAsleep : v.stand ≠ .asleep) (x : StyledText) :
    (s.putUp x).Minds w v := by
  have texts := extends_putUp s x
  rw [putUp_eq] at texts ⊢
  have old (j : Job) (notLook : ∀ i, j ≠ .look i) : j ∉ (s.board.append x).jobs := fun hj =>
    (append_jobs hj).elim notLook
  exact { h with
    early := fun t since ht => by
      rw [texts.contains_past ht]
      exact h.early t since ht
    awake := fun hv => List.mem_append_left _ (h.awake hv)
    asleep := fun hv => absurd hv notAsleep
    found := fun hv => texts.contains (h.found hv)
    ends := fun hv => (h.ends hv).imp_right (List.mem_append_left _)
    told := fun hr =>
      h.told ((List.mem_append.mp hr).resolve_right (old (.release v.id) (by simp)))
    concludes := by
      rw [List.count_append, List.count_eq_zero.mpr (old _ (by simp))]
      exact h.concludes }

/-- One that is asleep wakes up. -/
theorem Minds.wake (h : s.Minds w v) (asleep : v.stand = .asleep)
    (lowered : s.board.isRaised = false) (x : StyledText) :
    (s.putUp x).Minds w { v with stand := .awake } := by
  have texts := extends_putUp s x
  rw [putUp_eq] at texts ⊢
  have jobs : (s.board.append x).jobs = s.board.sleepers.map .look := by
    rw [append_of_lowered lowered]
  have old (j : Job) (notLook : ∀ i, j ≠ .look i) : j ∉ (s.board.append x).jobs := fun hj =>
    (append_jobs hj).elim notLook
  have stays (hv : v.stand = .found ∨ v.stand = .gaveUp) : False := by simp [asleep] at hv
  exact { h with
    early := fun t since ht => by
      rw [texts.contains_past ht]
      exact h.early t since ht
    awake := fun _ => by
      rw [jobs]
      exact List.mem_append_right _ (List.mem_map_of_mem (h.asleep asleep).1)
    asleep := nofun
    found := nofun
    gaveUp := nofun
    ends := nofun
    told := fun hr =>
      have hr := (List.mem_append.mp hr).resolve_right (old (.release v.id) (by simp))
      (stays (h.told hr)).elim
    concludes := by
      rw [List.count_append, List.count_eq_zero.mpr (old _ (by simp))]
      exact h.concludes
    released := fun hv => .inr ((h.released hv).resolve_left stays) }

namespace Watched

theorem putUp (h : s.Watched) (x : StyledText) : (s.putUp x).Watched := by
  have plain : (s.putUp x).board.plain = (s.putUp x).text (s.putUp x).clock := by
    rw [text_putUp]
    simp [putUp_eq, plain_append, h.plain]
  have log : ∀ y ∈ (s.putUp x).log, y.1 ≤ (s.putUp x).clock := by
    intro y hy
    obtain hy | hy := List.mem_append.mp hy
    · exact h.log y hy
    · exact (congrArg Prod.fst (List.mem_singleton.mp hy)).le
  have alarms : ∀ a ∈ (s.putUp x).alarms, a ∈ s.alarms ∧ (s.putUp x).clock ≤ a.1 := by
    rw [putUp_eq]
    exact fun a ha => ⟨ha, (h.alarms a ha).1⟩
  have ended : (s.putUp x).ended = s.ended := by rw [putUp_eq]
  cases raised : s.board.isRaised with
  | true =>
    refine h.next le_rfl (extends_putUp s x) rfl ended (fun v => v) (fun _ => rfl) ?_ plain log
      (fun _ => h.raised raised) alarms fun v hv _ _ _ mind => mind.putUp (h.raised raised v hv) x
    simp [putUp_eq, append_of_raised raised]
  | false =>
    let wake (v : Watcher) : Watcher := if v.stand = .asleep then { v with stand := .awake } else v
    have awake (v : Watcher) : (wake v).stand ≠ .asleep := by
      dsimp only [wake]
      split
      · simp
      · assumption
    refine h.next le_rfl (extends_putUp s x) rfl ended wake ?_ ?_ plain log
      (fun _ v _ => awake v) alarms fun v hv _ _ _ mind => ?_
    · intro v
      dsimp only [wake]
      split <;> rfl
    · simp [putUp_eq, append_of_lowered raised, wake]
    · by_cases asleep : v.stand = .asleep
      · rw [show wake v = { v with stand := .awake } from if_pos asleep]
        exact mind.wake asleep raised x
      · rw [show wake v = v from if_neg asleep]
        exact mind.putUp asleep x

/-! ## Time -/

/-- When nothing is left to do, everybody who watches sleeps, and nobody is about to be told
anything. -/
theorem rests (h : s.Watched) (idle : s.ready = []) (mem : v ∈ s.board.watchers) :
    v.stand = .asleep ∧ v.isDismissed = false ∧ v.isReleased = false := by
  obtain ⟨w, -, -, mind⟩ := h.minds v mem
  have unreleased : v.isReleased = false := by
    simpa [idle] using mind.concludes.symm
  have ends (hv : v.stand = .found ∨ v.stand = .gaveUp) : False := by
    simpa [idle, unreleased] using mind.ends hv
  cases stand : v.stand with
  | awake => simpa [idle] using mind.awake stand
  | asleep => exact ⟨rfl, (mind.asleep stand).2.2, unreleased⟩
  | found => exact (ends (.inl stand)).elim
  | gaveUp => exact (ends (.inr stand)).elim

theorem wait (h : s.Watched) {t : τ} (later : s.clock < t) (idle : s.ready = [])
    (alarms : ∀ a ∈ s.alarms, t ≤ a.1) : ({ s with clock := t } : Show τ).Watched := by
  refine h.next later.le (.of_eq rfl rfl) rfl rfl (fun v => v) (fun _ => rfl)
    (List.map_id' _).symm (h.plain.trans (text_of_le h.log later.le).symm)
    (fun x hx => (h.log x hx).trans later.le) h.raised (fun a ha => ⟨ha, alarms a ha⟩)
    fun v hv w _ _ mind => ?_
  obtain ⟨asleep, undismissed, unreleased⟩ := h.rests idle hv
  have missing {t : τ} (ht : s.clock ≤ t) : ¬ s.Contains t w.wanted :=
    (contains_of_le h.log ht).not.mpr (mind.asleep asleep).2.1
  exact { mind with
    since := mind.since.trans later.le
    early := fun u since _ => (lt_or_ge u s.clock).elim (mind.early u since) missing
    asleep := fun hv => ⟨(mind.asleep hv).1, missing later.le, undismissed⟩
    found := fun hv => by simp [asleep] at hv
    released := fun hv => by simp [unreleased] at hv
    dismissed := fun hv => by simp [undismissed] at hv
    alarm := fun u hu => (mind.alarm u hu).imp_right fun ⟨_, hv⟩ => by
      simp [unreleased, undismissed] at hv }

end Watched

/-! ## Watches -/

/-- The watcher of a watch that begins. -/
theorem Minds.begin (unknown : ∀ j ∈ s.ready, j.id ≠ id) (wanted : List Char) (time : Option τ) :
    (s.begin id wanted time).Minds ⟨id, wanted, s.clock, time⟩
      ⟨id, wanted, .awake, false, false⟩ := by
  rw [begin_eq]
  exact {
    wanted := rfl
    since := le_rfl
    early := fun t since ht => absurd since ht.not_ge
    awake := fun _ => List.mem_append_right _ (List.mem_singleton_self _)
    asleep := nofun
    found := nofun
    gaveUp := nofun
    ends := nofun
    told := fun hr => by
      obtain hr | hr := List.mem_append.mp hr
      · exact absurd rfl (unknown _ hr)
      · simp at hr
    concludes := by
      have old : s.ready.count (.conclude id) = 0 :=
        List.count_eq_zero.mpr fun hj => unknown _ hj rfl
      simp [old]
    released := nofun
    dismissed := nofun
    alarm := fun t ht => .inl (List.mem_append_right _ (by simpa using ht)) }

namespace Watched

theorem begin [IsOrderedAddMonoid τ] (h : s.Watched) {wanted : List Char} {time : Option τ}
    (positive : ∀ length, time = some length → 0 < length) (fresh : ∀ w ∈ s.watches, w.id ≠ id)
    (unknown : ∀ j ∈ s.ready, j.id ≠ id) : (s.begin id wanted time).Watched := by
  have others : ∀ v ∈ s.board.watchers, v.id ≠ id := fun v hv => by
    obtain ⟨u, hu, id, -⟩ := h.minds v hv
    exact id ▸ fresh u hu
  have newborn := Minds.begin unknown wanted time
  rw [begin_eq] at newborn ⊢
  exact { h with
    watchers := by
      rw [List.map_append, List.nodup_append]
      refine ⟨h.watchers, List.nodup_singleton _, ?_⟩
      intro i hi k hk
      obtain ⟨v, hv, rfl⟩ := List.mem_map.mp hi
      obtain rfl := List.mem_singleton.mp hk
      exact others v hv
    minds := fun v hv => by
      obtain hv | hv := List.mem_append.mp hv
      · obtain ⟨u, hu, same, mind⟩ := h.minds v hv
        refine ⟨u, List.mem_append_left _ hu, same, ?_⟩
        refine mind.keep (fun j hj => ?_) (fun hi => hi) fun t ht =>
          List.mem_append_left _ ht
        have ne : j ≠ .look id := by
          rintro rfl
          exact others v hv hj.symm
        simp [ne.symm]
      · obtain rfl := List.mem_singleton.mp hv
        exact ⟨_, List.mem_append_right _ (List.mem_singleton_self _), rfl, newborn⟩
    distinct := by
      rw [List.map_append, List.nodup_append]
      refine ⟨h.distinct, List.nodup_singleton _, ?_⟩
      intro i hi k hk
      obtain ⟨u, hu, rfl⟩ := List.mem_map.mp hi
      obtain rfl := List.mem_singleton.mp hk
      exact fresh u hu
    known := fun u hu => by
      obtain hu | hu := List.mem_append.mp hu
      · refine (h.known u hu).imp_left ?_
        rintro ⟨v, hv, id⟩
        exact ⟨v, List.mem_append_left _ hv, id⟩
      · obtain rfl := List.mem_singleton.mp hu
        exact .inl ⟨_, List.mem_append_right _ (List.mem_singleton_self _), rfl⟩
    ended := fun x hx => by
      obtain ⟨gone, u, hu, id, ended⟩ := h.ended x hx
      refine ⟨fun v hv => ?_, u, List.mem_append_left _ hu, id, ended.later (.of_eq rfl rfl) le_rfl⟩
      obtain hv | hv := List.mem_append.mp hv
      · exact gone v hv
      · obtain rfl := List.mem_singleton.mp hv
        exact id ▸ (fresh u hu).symm
    raised := fun up v hv => by
      obtain hv | hv := List.mem_append.mp hv
      · exact h.raised up v hv
      · obtain rfl := List.mem_singleton.mp hv
        simp
    alarms := fun a ha => by
      obtain ha | ha := List.mem_append.mp ha
      · obtain ⟨later, u, hu, id, deadline⟩ := h.alarms a ha
        exact ⟨later, u, List.mem_append_left _ hu, id, deadline⟩
      · obtain ⟨length, rfl, rfl⟩ : ∃ length, time = some length ∧ (s.clock + length, id) = a := by
          simpa using ha
        exact ⟨le_add_of_nonneg_right (positive length rfl).le, _,
          List.mem_append_right _ (List.mem_singleton_self _), rfl, rfl⟩ }

/-- Every step leads on. -/
theorem step [IsOrderedAddMonoid τ] (h : s.Watched) (step : s.Step r) : r.Watched := by
  cases step with
  | putUp x => exact h.putUp x
  | begin id wanted time positive fresh unknown => exact h.begin positive fresh unknown
  | work work => exact h.work work
  | wait t later idle alarms => exact h.wait later idle alarms

/-- However long it goes on. -/
theorem run [IsOrderedAddMonoid τ] (h : s.Watched) (run : Relation.ReflTransGen Step s r) :
    r.Watched := by
  induction run with
  | refl => exact h
  | tail _ step ih => exact ih.step step

end Watched

end ToolHost.Board.Show

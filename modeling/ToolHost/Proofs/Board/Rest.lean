import ToolHost.Proofs.Board.Steps

/-!
# A board comes to rest

What is ready makes other things ready, but not for ever: with each of them some watcher has less
left to do. So at every time there is an end to what can be done without any time.
-/
namespace ToolHost.Board

/-- How many steps something that is ready stands for, with those that it may make ready. -/
def Job.weight : Job → ℕ
  | look _ => 3
  | release _ => 2
  | conclude _ => 1

/-- How many steps a watcher has left besides those that are ready. -/
def Watcher.weight (v : Watcher) : ℕ :=
  match v.stand with
  | .awake => if v.isDismissed then 0 else 1
  | .asleep => 3
  | .found | .gaveUp => 0

def watchersWeight (b : Board) : ℕ := (b.watchers.map Watcher.weight).sum

def Turn.weight (t : Turn) : ℕ := t.board.watchersWeight + (t.jobs.map Job.weight).sum

section Jobs

open Show (mem_of_watcher?)

variable {b : Board} {v : Watcher}

/-- Only the one watcher weighs anything else than before. -/
theorem weight_setWatcher (ids : (b.watchers.map (·.id)).Nodup) (hv : v ∈ b.watchers) (u : Watcher)
    (same : u.id = v.id) :
    (b.setWatcher u).watchersWeight + v.weight = b.watchersWeight + u.weight := by
  suffices h : ∀ l : List Watcher, (l.map (·.id)).Nodup → v ∈ l →
      ((l.map fun x => if x.id = u.id then u else x).map Watcher.weight).sum + v.weight =
        (l.map Watcher.weight).sum + u.weight from h b.watchers ids hv
  intro l ids hv
  induction l with
  | nil => exact absurd hv List.not_mem_nil
  | cons x l ih =>
    obtain ⟨notIn, ids⟩ := List.nodup_cons.mp ids
    have other {y : Watcher} (hy : y ∈ l) : y.id ≠ x.id := fun e =>
      notIn (List.mem_map.mpr ⟨y, hy, e⟩)
    obtain rfl | hv := List.mem_cons.mp hv
    · have rest : l.map (fun y => if y.id = u.id then u else y) = l.map fun y => y :=
        List.map_congr_left fun y hy => if_neg (same ▸ other hy)
      simp only [List.map_cons, rest, List.map_id', if_pos same.symm, List.sum_cons]
      omega
    · have ne : x.id ≠ u.id := same ▸ (other hv).symm
      have := ih ids hv
      simp only [List.map_cons, if_neg ne, List.sum_cons]
      omega

theorem weight_look_lt (ids : (b.watchers.map (·.id)).Nodup) (id : CallId) :
    (b.look id).weight < b.watchersWeight + 3 := by
  cases hv : b.watcher? id with
  | none => simp [look, hv, Turn.weight]
  | some v =>
    obtain ⟨mem, rfl⟩ := mem_of_watcher? hv
    by_cases awake : v.stand = .awake
    · by_cases dismissed : v.isDismissed = true
      · have set := weight_setWatcher ids mem { v with stand := .gaveUp } rfl
        simp [look, hv, Turn.weight, awake, dismissed, Watcher.weight, Job.weight] at set ⊢
        omega
      · have weight : v.weight = 1 := by simp [Watcher.weight, awake, dismissed]
        by_cases shows : b.shows v.wanted = true
        · have set := weight_setWatcher ids mem { v with stand := .found } rfl
          simp [look, hv, Turn.weight, awake, dismissed, shows, Watcher.weight, Job.weight] at set ⊢
          omega
        · have set := weight_setWatcher ids mem { v with stand := .asleep } rfl
          simp [look, hv, Turn.weight, awake, dismissed, shows, Watcher.weight,
            watchersWeight] at set ⊢
          omega
    · simp [look, hv, Turn.weight, awake]

theorem weight_release_lt (ids : (b.watchers.map (·.id)).Nodup) (id : CallId) :
    (b.release id).weight < b.watchersWeight + 2 := by
  cases hv : b.watcher? id with
  | none => simp [release, hv, Turn.weight]
  | some v =>
    obtain ⟨mem, rfl⟩ := mem_of_watcher? hv
    have set := weight_setWatcher ids mem { v with isReleased := true } rfl
    by_cases released : v.isReleased = true
    · simp [release, hv, Turn.weight, released]
    · simp [release, hv, Turn.weight, released, Watcher.weight, Job.weight] at set ⊢
      omega

theorem weight_conclude_lt (ids : (b.watchers.map (·.id)).Nodup) (id : CallId) :
    (b.conclude id).weight < b.watchersWeight + 1 := by
  have without : ({ b with watchers := b.watchers.filter (·.id != id) } : Board).watchersWeight ≤
      b.watchersWeight := (List.filter_sublist.map _).sum_le_sum fun _ _ => Nat.zero_le _
  cases hv : b.watcher? id with
  | none => simp [conclude, hv, Turn.weight]
  | some v =>
    obtain ⟨mem, rfl⟩ := mem_of_watcher? hv
    cases stand : v.stand with
    | found => simpa [conclude, hv, Turn.weight, stand] using Nat.lt_succ_of_le without
    | gaveUp => simpa [conclude, hv, Turn.weight, stand] using Nat.lt_succ_of_le without
    | awake =>
      have set := weight_setWatcher ids mem { v with isDismissed := true, isReleased := false } rfl
      simp [conclude, hv, Turn.weight, stand, Watcher.weight] at set ⊢
      omega
    | asleep =>
      have set := weight_setWatcher ids mem
        { v with isDismissed := true, isReleased := false, stand := .awake } rfl
      simp [conclude, hv, Turn.weight, stand, Watcher.weight, Job.weight, watchersWeight] at set ⊢
      omega

theorem weight_perform_lt (ids : (b.watchers.map (·.id)).Nodup) (j : Job) :
    (b.perform j).weight < b.watchersWeight + j.weight := by
  cases j with
  | look id => exact weight_look_lt ids id
  | release id => exact weight_release_lt ids id
  | conclude id => exact weight_conclude_lt ids id

end Jobs

namespace Show

variable {τ : Type}

/-- How many steps are left without anything from outside and without any time. -/
def weight (s : Show τ) : ℕ :=
  (s.ready.map Job.weight).sum + s.board.watchersWeight + 2 * s.alarms.length

/-- Nothing is left to do for now. -/
def IsAtRest [LinearOrder τ] (s : Show τ) : Prop := ∀ r, ¬ s.Work r

theorem weight_absorb_le (s : Show τ) (t : Turn) :
    (s.absorb t).weight ≤ (s.ready.map Job.weight).sum + t.weight + 2 * s.alarms.length := by
  have alarms := List.length_filter_le (fun a => t.ended.all (·.1 != a.2)) s.alarms
  simp only [weight, absorb, Turn.weight, List.map_append, List.sum_append]
  omega

variable [AddCommMonoid τ] [LinearOrder τ] {s r : Show τ}

/-- Whatever is done, less is left to do. -/
theorem Watched.weight_lt (h : s.Watched) (work : s.Work r) : r.weight < s.weight := by
  cases work with
  | @perform j ready =>
    have weight := weight_perform_lt h.watchers j
    have le := weight_absorb_le { s with ready := s.ready.erase j } (s.board.perform j)
    have jobs := (List.perm_cons_erase ready).map Job.weight |>.sum_eq
    rw [List.map_cons, List.sum_cons] at jobs
    simp only [Show.weight, perform] at le ⊢
    omega
  | @ring a alarm due =>
    have weight := weight_release_lt h.watchers a.2
    have le := weight_absorb_le { s with alarms := s.alarms.erase a } (s.board.release a.2)
    have alarms := List.length_erase_of_mem alarm
    have positive := List.length_pos_of_mem alarm
    simp only [Show.weight, Show.ring] at le ⊢
    omega

/-- There is an end to what can be done. -/
theorem Watched.acc (h : s.Watched) : Acc (fun r s : Show τ => s.Work r) s := by
  induction s using WellFounded.induction (measure weight).wf with
  | _ s ih => exact ⟨s, fun r work => ih r (h.weight_lt work) (h.work work)⟩

end Show

end ToolHost.Board

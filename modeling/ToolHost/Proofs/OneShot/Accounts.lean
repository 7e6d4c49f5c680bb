import Mathlib.Tactic
import ToolHost.Proofs.OneShot.Shop

/-!
# The books of single commands

What holds whenever single commands are launched and waited for. Every call has returned or is
under way, and only once. Every process that was created has its entry, which stays on the list
until the reaper is done, and the reaper is done only when the process has ended. A call that waits
for processes has counted those whose reapers are done, but for the counts that are still to come.
-/
namespace ToolHost

namespace OneShot.Shots

variable {s : Shots} {x y z : Shot} {pid : Pid}

/-- The processes that were created. -/
def pids (s : Shots) : List Pid := s.shots.map (·.pid)

/-- The calls that are under way. -/
def waiting (s : Shots) : List CallId := s.pending.map (·.id) ++ s.vigils.map (·.id)

/-- Whether the reaper of a process is done. -/
def isReaped (s : Shots) (pid : Pid) : Bool :=
  s.shots.any fun x => x.pid = pid && x.reaper = .done

@[simp] theorem pids_setShot (s : Shots) (y : Shot) : (s.setShot y).pids = s.pids := by
  simp only [pids, setShot, List.map_map]
  refine List.map_congr_left fun z _ => ?_
  simp only [Function.comp_apply]
  split <;> simp_all

@[simp] theorem waiting_setShot (s : Shots) (y : Shot) : (s.setShot y).waiting = s.waiting := rfl

theorem mem_setShot (child : x ∈ s.shots) (same : y.pid = x.pid) :
    z ∈ (s.setShot y).shots ↔ z = y ∨ z ∈ s.shots ∧ z.pid ≠ y.pid := by
  simp only [setShot, List.mem_map]
  constructor
  · rintro ⟨u, hu, rfl⟩
    by_cases h : u.pid = y.pid
    · simp [h]
    · simp [h, hu]
  · rintro (rfl | ⟨hz, ne⟩)
    · exact ⟨x, child, by simp [same]⟩
    · exact ⟨z, hz, by simp [ne]⟩

/-- No process has two entries. -/
theorem eq_of_pid (nodup : s.pids.Nodup) (hx : x ∈ s.shots) (hz : z ∈ s.shots)
    (same : z.pid = x.pid) : z = x :=
  List.inj_on_of_nodup_map nodup hz hx same

theorem shot?_eq (nodup : s.pids.Nodup) (child : x ∈ s.shots) : s.shot? x.pid = some x := by
  cases found : s.shot? x.pid with
  | none => simpa using List.find?_eq_none.mp found x child
  | some z =>
    have hz : z.pid = x.pid := by simpa using List.find?_some found
    rw [eq_of_pid nodup child (List.mem_of_find?_eq_some found) hz]

theorem isReaped_eq (nodup : s.pids.Nodup) (child : x ∈ s.shots) :
    s.isReaped x.pid = decide (x.reaper = .done) := by
  rw [Bool.eq_iff_iff, isReaped, List.any_eq_true]
  constructor
  · rintro ⟨z, hz, h⟩
    simp only [Bool.and_eq_true, decide_eq_true_eq] at h ⊢
    rw [← eq_of_pid nodup child hz h.1]
    exact h.2
  · exact fun h => ⟨x, child, by simpa using h⟩

theorem isReaped_setShot (nodup : s.pids.Nodup) (child : x ∈ s.shots) (same : y.pid = x.pid)
    (pid : Pid) :
    (s.setShot y).isReaped pid = if pid = y.pid then decide (y.reaper = .done) else
      s.isReaped pid := by
  have hy : y ∈ (s.setShot y).shots := (mem_setShot child same).mpr (.inl rfl)
  split
  case isTrue h =>
    subst h
    exact isReaped_eq (by simpa using nodup) hy
  case isFalse ne =>
    rw [Bool.eq_iff_iff, isReaped, isReaped, List.any_eq_true, List.any_eq_true]
    simp only [Bool.and_eq_true, decide_eq_true_eq, mem_setShot child same]
    grind

end OneShot.Shots

namespace Shop

open OneShot (Shot Shots Vigil Pending)

variable {w w' : Shop} {a : Action} {t : OneShot.Turn} {jobs : List OneShot.Job}

theorem called_next : (w.next a t jobs).called = a.begun?.toList ++ w.called := by
  simp only [called, next, List.filterMap_cons]
  cases a.begun? <;> rfl

theorem returned_next (same : w.house.act a = w.house.turnShots t) :
    (w.next a t jobs).returned = (t.returned.map (·.1)).toList ++ w.returned := by
  have head : Deed.returned? ⟨w.house, a⟩ = (w.house.turnShots t).returned :=
    congrArg Outcome.returned same
  simp only [returned, next, List.filterMap_cons, head, House.turnShots]
  cases t.returned <;> rfl

/-! ## Calls -/

/-- Every call that was made has returned or is under way, and only once. -/
structure Calls (w : Shop) : Prop where
  nodup : w.called.Nodup
  settled : w.called.Perm (w.returned ++ w.house.shots.waiting)

namespace Calls

theorem not_waiting (calls : Calls w) {id : CallId} (fresh : id ∉ w.called) :
    id ∉ w.house.shots.waiting := fun h =>
  fresh (calls.settled.mem_iff.mpr (List.mem_append_right _ h))

theorem waiting_nodup (calls : Calls w) : w.house.shots.waiting.Nodup :=
  (List.nodup_append.mp (calls.settled.nodup calls.nodup)).2.1

/-- One of several calls is taken out. -/
theorem perm_without {α : Type} {f : α → CallId} {xs : List α} (nodup : (xs.map f).Nodup) {x : α}
    (mem : x ∈ xs) : (xs.map f).Perm (f x :: (xs.filter (f · != f x)).map f) := by
  induction xs with
  | nil => cases mem
  | cons y ys ih =>
    obtain ⟨fresh, rest⟩ := List.nodup_cons.mp nodup
    rcases List.mem_cons.mp mem with rfl | mem
    · have keep : ys.filter (f · != f x) = ys := by
        refine List.filter_eq_self.mpr fun z hz => ?_
        simpa using fun h : f z = f x => fresh (h ▸ List.mem_map_of_mem hz)
      simp [keep]
    · have ne : f y ≠ f x := fun h => fresh (h ▸ List.mem_map_of_mem mem)
      simp only [List.map_cons, List.filter_cons, bne_iff_ne, ne_eq, ne, not_false_eq_true,
        if_true]
      exact ((ih rest mem).cons _).trans (.swap _ _ _)

theorem move (calls : Calls w) (move : Move w a t jobs)
    (reply : w.house.act a = w.house.turnShots t) : Calls (w.next a t jobs) := by
  have nodup := calls.waiting_nodup
  have settled := calls.settled
  have old (none : a.begun? = none) (ret : t.returned = .none)
      (same : t.shots.waiting = w.house.shots.waiting) : Calls (w.next a t jobs) :=
    ⟨by rw [called_next, none]; exact calls.nodup, by
      rw [called_next, returned_next reply, none, ret]
      exact same ▸ settled⟩
  -- A call that begins ends at once, or waits from now on.
  have begins {id : CallId} (new : a.begun? = some id) (fresh : id ∉ w.called)
      (moves : ((t.returned.map (·.1)).toList ++ t.shots.waiting).Perm
        (id :: w.house.shots.waiting)) : Calls (w.next a t jobs) := by
    refine ⟨?_, ?_⟩
    · rw [called_next, new]
      exact List.nodup_cons.mpr ⟨fresh, calls.nodup⟩
    · rw [called_next, returned_next reply, new]
      refine (settled.cons id).trans ?_
      rw [List.append_assoc]
      refine List.perm_middle.symm.trans ((moves.symm.append_left w.returned).trans ?_)
      exact List.perm_append_comm_assoc _ _ _
  have ends {id : CallId} (none : a.begun? = none) (ret : t.returned.map (·.1) = some id)
      (moves : w.house.shots.waiting.Perm (id :: t.shots.waiting)) :
      Calls (w.next a t jobs) := by
    refine ⟨by rw [called_next, none]; exact calls.nodup, ?_⟩
    rw [called_next, returned_next reply, none, ret]
    exact (settled.trans (moves.append_left _)).trans List.perm_middle
  obtain ⟨pending, vigils, -⟩ := List.nodup_append.mp nodup
  cases move with
  | refuse fresh => exact begins rfl fresh .rfl
  | ask fresh =>
    refine begins rfl fresh ?_
    simp [Shots.waiting]
  | pass fresh => exact begins rfl fresh .rfl
  | wait fresh =>
    refine begins rfl fresh ?_
    simp only [Shots.waiting, List.map_append, List.map_cons, List.map_nil, Option.map_none,
      Option.toList_none, List.nil_append, ← List.append_assoc]
    exact List.perm_append_singleton _ _
  | miss waits =>
    exact ends rfl rfl ((perm_without pending waits).append_right _)
  | launch waits =>
    exact ends rfl rfl ((perm_without pending waits).append_right _)
  | doze => exact old rfl rfl rfl
  | reap => exact old rfl rfl rfl
  | exit => exact old rfl rfl rfl
  | forget => exact old rfl rfl rfl
  | count =>
    refine old rfl rfl ?_
    simp only [Shots.waiting, List.map_map]
    congr 1
    refine List.map_congr_left fun v _ => ?_
    simp only [Function.comp_apply]
    split <;> rfl
  | resume waits =>
    refine ends rfl rfl ?_
    exact ((perm_without vigils waits).append_left _).trans List.perm_middle
  | idle => exact old rfl rfl rfl

end Calls

/-! ## Processes -/

/-- A process ended with an exit code. -/
def Ended (ds : List Deed) (pid : Pid) (code : Int) : Prop :=
  ∃ d ∈ ds, d.action = .shot (.exit pid code)

theorem Ended.mono {ds es : List Deed} (sub : ds ⊆ es) {pid : Pid} {code : Int}
    (ended : Ended ds pid code) : Ended es pid code :=
  ended.imp fun _ h => ⟨sub h.1, h.2⟩

theorem ended_cons {d : Deed} {ds : List Deed} {pid : Pid} {code : Int} :
    Ended (d :: ds) pid code ↔ d.action = .shot (.exit pid code) ∨ Ended ds pid code := by
  simp [Ended]

/-- What the entry of a process says is right. It is listed until the process is reaped. -/
structure Entry (ds : List Deed) (x : Shot) : Prop where
  code : ∀ c, x.code = some c ↔ Ended ds x.pid c
  reaped : x.reaper = .done → x.code.isSome = true
  listed : x.reaper ≠ .done → x.isListed = true

/-- Every process that was created has its entry, and nothing else has. -/
structure Children (w : Shop) : Prop where
  nodup : w.house.shots.pids.Nodup
  created : (launches w.house.trace).map (·.1) = w.house.shots.pids.reverse
  entries : ∀ x ∈ w.house.shots.shots, Entry w.done x
  known : ∀ pid c, Ended w.done pid c → pid ∈ w.house.shots.pids
  leaving : ∀ pid, .forget pid ∈ w.jobs → w.house.shots.isReaped pid = true

namespace Children

/-- An entry stays right when another process ends, or none. -/
theorem entry_cons {d : Deed} {ds : List Deed} {x : Shot} (entry : Entry ds x)
    (other : ∀ code, d.action ≠ .shot (.exit x.pid code)) : Entry (d :: ds) x where
  code c := by
    rw [ended_cons]
    simpa [other c] using entry.code c
  reaped := entry.reaped
  listed := entry.listed

/-- A move that leaves the entries alone. -/
theorem same (c : Children w) (calm : ∀ pid code, a ≠ .shot (.exit pid code))
    (quiet : launches t.trace = []) (shots : t.shots.shots = w.house.shots.shots)
    (leaving : ∀ pid, .forget pid ∈ jobs ++ t.jobs → .forget pid ∈ w.jobs) :
    Children (w.next a t jobs) := by
  have pids : t.shots.pids = w.house.shots.pids := by rw [Shots.pids, Shots.pids, shots]
  have isReaped (pid : Pid) : t.shots.isReaped pid = w.house.shots.isReaped pid := by
    simp only [Shots.isReaped, shots]
  refine ⟨pids ▸ c.nodup, ?_, fun z hz => ?_, fun pid k hk => ?_, fun pid hp => ?_⟩
  · show (launches (t.trace ++ w.house.trace)).map (·.1) = t.shots.pids.reverse
    rw [launches_append, quiet, pids]
    exact c.created
  · exact entry_cons (c.entries z (shots ▸ hz)) fun code => calm _ _
  · rcases ended_cons.mp hk with h | h
    · exact absurd h (calm pid k)
    · exact pids ▸ c.known pid k h
  · exact (isReaped pid).trans (c.leaving pid (leaving pid hp))

/-- A move that changes one entry. -/
theorem changed (c : Children w) {x y : Shot} (child : x ∈ w.house.shots.shots)
    (same : y.pid = x.pid) (shots : t.shots.shots = (w.house.shots.setShot y).shots)
    (quiet : launches t.trace = []) (own : ∀ pid code, a = .shot (.exit pid code) → pid = x.pid)
    (entry : Entry (⟨w.house, a⟩ :: w.done) y) (stays : x.reaper = .done → y.reaper = .done)
    (leaving : ∀ pid, .forget pid ∈ jobs ++ t.jobs →
      .forget pid ∈ w.jobs ∨ pid = x.pid ∧ y.reaper = .done) :
    Children (w.next a t jobs) := by
  have pids : t.shots.pids = w.house.shots.pids := by
    rw [← Shots.pids_setShot w.house.shots y, Shots.pids, Shots.pids, shots]
  have isReaped (pid : Pid) : t.shots.isReaped pid = (w.house.shots.setShot y).isReaped pid := by
    simp only [Shots.isReaped, shots]
  refine ⟨pids ▸ c.nodup, ?_, fun z hz => ?_, fun pid k hk => ?_, fun pid hp => ?_⟩
  · show (launches (t.trace ++ w.house.trace)).map (·.1) = t.shots.pids.reverse
    rw [launches_append, quiet, pids]
    exact c.created
  · change z ∈ t.shots.shots at hz
    rw [shots, Shots.mem_setShot child same] at hz
    rcases hz with rfl | ⟨hz, ne⟩
    · exact entry
    · exact entry_cons (c.entries z hz) fun code h => ne ((own _ _ h).trans same.symm)
  · show pid ∈ t.shots.pids
    rw [pids]
    rcases ended_cons.mp hk with h | h
    · exact own pid k h ▸ List.mem_map_of_mem child
    · exact c.known pid k h
  · show t.shots.isReaped pid = true
    rw [isReaped, Shots.isReaped_setShot c.nodup child same]
    split
    case isTrue h =>
      rcases leaving pid hp with old | ⟨-, done⟩
      · have was := c.leaving pid old
        rw [h, same, Shots.isReaped_eq c.nodup child] at was
        simpa using stays (by simpa using was)
      · simpa using done
    case isFalse ne =>
      exact c.leaving pid ((leaving pid hp).resolve_right fun h => ne (h.1.trans same.symm))

theorem fresh_pid {s : Shots} {pid : Pid} (fresh : s.shot? pid = none) : pid ∉ s.pids := by
  intro h
  obtain ⟨x, hx, same⟩ := List.mem_map.mp h
  simpa [same] using List.find?_eq_none.mp fresh x hx

/-- A process is created. -/
theorem born (c : Children w) {x : Shot} (fresh : x.pid ∉ w.house.shots.pids)
    (runs : x.code = none) (unreaped : x.reaper ≠ .done) (listed : x.isListed = true)
    (shots : t.shots.shots = w.house.shots.shots ++ [x])
    (created : (launches t.trace).map (·.1) = [x.pid])
    (calm : ∀ pid code, a ≠ .shot (.exit pid code))
    (leaving : ∀ pid, .forget pid ∈ jobs ++ t.jobs → .forget pid ∈ w.jobs) :
    Children (w.next a t jobs) := by
  have pids : t.shots.pids = w.house.shots.pids ++ [x.pid] := by
    simp only [Shots.pids, shots, List.map_append, List.map_cons, List.map_nil]
  refine ⟨?_, ?_, fun z hz => ?_, fun pid k hk => ?_, fun pid hp => ?_⟩
  · show t.shots.pids.Nodup
    rw [pids, List.nodup_append]
    exact ⟨c.nodup, List.nodup_singleton _, fun p hp q hq =>
      fun h => fresh (List.mem_singleton.mp hq ▸ h ▸ hp)⟩
  · show (launches (t.trace ++ w.house.trace)).map (·.1) = t.shots.pids.reverse
    rw [launches_append, List.map_append, created, pids, List.reverse_append, c.created]
    rfl
  · change z ∈ t.shots.shots at hz
    rw [shots] at hz
    rcases List.mem_append.mp hz with hz | hz
    · exact entry_cons (c.entries z hz) fun code => calm _ _
    · obtain rfl := List.mem_singleton.mp hz
      refine ⟨fun k => ?_, fun h => absurd h unreaped, fun _ => listed⟩
      have none : ¬ Ended w.done z.pid k := fun h => fresh (c.known _ k h)
      refine (?_ : _ ↔ Ended (⟨w.house, a⟩ :: w.done) z.pid k)
      simp [runs, ended_cons, calm, none]
  · show pid ∈ t.shots.pids
    rw [pids]
    rcases ended_cons.mp hk with h | h
    · exact absurd h (calm pid k)
    · exact List.mem_append_left _ (c.known pid k h)
  · show t.shots.isReaped pid = true
    have was := c.leaving pid (leaving pid hp)
    simp only [Shots.isReaped, shots, List.any_append] at was ⊢
    simp [was]

theorem move (c : Children w) (move : Move w a t jobs) : Children (w.next a t jobs) := by
  have old {j : OneShot.Job} {js : List OneShot.Job} (none : ∀ pid, .forget pid ∉ js)
      (pid : Pid) (h : .forget pid ∈ w.jobs.erase j ++ js) : .forget pid ∈ w.jobs :=
    List.mem_of_mem_erase ((List.mem_append.mp h).resolve_right (none pid))
  cases move with
  | refuse => exact c.same (by simp) rfl rfl (by simp)
  | ask => exact c.same (by simp) rfl rfl (by simp)
  | pass => exact c.same (by simp) rfl rfl (by simp)
  | wait => exact c.same (by simp) rfl rfl (by simp)
  | miss => exact c.same (by simp) rfl rfl (old (by simp))
  | launch waits fresh =>
    exact c.born (fresh_pid fresh) rfl (by simp) rfl rfl rfl (by simp) (old (by simp))
  | @doze x child runs unreaped =>
    have entry : Entry _ { x with reaper := .asleep } :=
      ⟨(c.entries x child).code, by simp, fun _ => (c.entries x child).listed unreaped⟩
    exact c.changed (y := { x with reaper := .asleep }) child rfl rfl rfl (by simp)
      (entry_cons entry (by simp)) (fun h => absurd h unreaped)
      fun pid h => .inl (old (by simp) pid h)
  | @reap x child code ended unreaped =>
    have entry : Entry w.done { x with reaper := .done } :=
      ⟨(c.entries x child).code, by simp [ended], by simp⟩
    refine c.changed (y := { x with reaper := .done }) child rfl rfl rfl (by simp)
      (entry_cons entry (by simp)) (by simp) fun pid h => ?_
    rcases List.mem_append.mp h with h | h
    · exact .inl (List.mem_of_mem_erase h)
    · exact .inr ⟨by simpa using h, rfl⟩
  | @exit x child runs code =>
    have entry := c.entries x child
    have unreaped : x.reaper ≠ .done := fun h => by simpa [runs] using entry.reaped h
    refine c.changed (y := { x with
        code := some code, reaper := if x.reaper = .asleep then .woken else x.reaper })
      child rfl rfl rfl (by simp +contextual [eq_comm]) ⟨fun k => ?_, by simp, ?_⟩
      (fun h => absurd h unreaped) fun pid h => .inl ?_
    · have none : ¬ Ended w.done x.pid k := fun h => by simpa [runs] using (entry.code k).mpr h
      simp [ended_cons, none]
    · exact fun _ => entry.listed unreaped
    · split at h <;> simpa using h
  | @forget x child ready =>
    have done : x.reaper = .done := by
      simpa [Shots.isReaped_eq c.nodup child] using c.leaving _ ready
    have entry : Entry w.done { x with isListed := false } :=
      ⟨(c.entries x child).code, (c.entries x child).reaped, fun h => absurd done h⟩
    exact c.changed (y := { x with isListed := false }) child rfl rfl rfl (by simp)
      (entry_cons entry (by simp)) id fun pid h => .inl (old (by simp) pid h)
  | count ready last =>
    exact c.same (by simp) rfl rfl (old (by rcases last with rfl | rfl <;> simp))
  | resume => exact c.same (by simp) rfl rfl (old (by simp))
  | idle calm => exact c.same (by simpa using calm) rfl rfl (old (by simp))

end Children

/-! ## Those who wait -/

/-- Every call that is under way was made. -/
structure Reasons (w : Shop) : Prop where
  asked : ∀ p ∈ w.house.shots.pending, ∃ d ∈ w.done, ∃ artifact text,
    d.action = .begin p.id (.oneShot artifact p.dir text) ∧
      d.house.shotWords artifact text = .ok p.argv
  watching : ∀ v ∈ w.house.shots.vigils, ∃ d ∈ w.done,
    d.action = .begin v.id .awaitOneShots ∧ v.pids = d.house.shots.listed.map (·.pid)

namespace Reasons

theorem next (r : Reasons w)
    (asked : ∀ p ∈ t.shots.pending, p ∈ w.house.shots.pending ∨ ∃ artifact text,
      a = .begin p.id (.oneShot artifact p.dir text) ∧
        w.house.shotWords artifact text = .ok p.argv)
    (watching : ∀ v ∈ t.shots.vigils,
      (∃ u ∈ w.house.shots.vigils, u.id = v.id ∧ u.pids = v.pids) ∨
        a = .begin v.id .awaitOneShots ∧ v.pids = w.house.shots.listed.map (·.pid)) :
    Reasons (w.next a t jobs) where
  asked p hp := by
    rcases asked p hp with old | ⟨artifact, text, h⟩
    · exact (r.asked p old).imp fun _ h => ⟨List.mem_cons_of_mem _ h.1, h.2⟩
    · exact ⟨_, List.mem_cons_self, artifact, text, h⟩
  watching v hv := by
    rcases watching v hv with ⟨u, hu, same, pids⟩ | h
    · obtain ⟨d, hd, h⟩ := r.watching u hu
      exact ⟨d, List.mem_cons_of_mem _ hd, same ▸ pids ▸ h⟩
    · exact ⟨_, List.mem_cons_self, h⟩

theorem move (r : Reasons w) (move : Move w a t jobs) : Reasons (w.next a t jobs) := by
  have old (v : Vigil) (hv : v ∈ w.house.shots.vigils) :
      ∃ u ∈ w.house.shots.vigils, u.id = v.id ∧ u.pids = v.pids := ⟨v, hv, rfl, rfl⟩
  cases move with
  | ask _ artifact _ text words =>
    refine r.next (fun p hp => ?_) fun v hv => .inl (old v hv)
    rcases List.mem_append.mp hp with hp | hp
    · exact .inl hp
    · obtain rfl := List.mem_singleton.mp hp
      exact .inr ⟨artifact, text, rfl, words⟩
  | wait =>
    refine r.next (fun _ hp => .inl hp) fun v hv => ?_
    rcases List.mem_append.mp hv with hv | hv
    · exact .inl (old v hv)
    · obtain rfl := List.mem_singleton.mp hv
      exact .inr ⟨rfl, rfl⟩
  | miss => exact r.next (fun p hp => .inl (List.mem_filter.mp hp).1) fun v hv => .inl (old v hv)
  | launch => exact r.next (fun p hp => .inl (List.mem_filter.mp hp).1) fun v hv => .inl (old v hv)
  | count =>
    refine r.next (fun _ hp => .inl hp) fun v hv => ?_
    obtain ⟨u, hu, rfl⟩ := List.mem_map.mp hv
    refine .inl ⟨u, hu, ?_⟩
    split <;> exact ⟨rfl, rfl⟩
  | resume =>
    exact r.next (fun _ hp => .inl hp) fun v hv => .inl (old v (List.mem_filter.mp hv).1)
  | _ => exact r.next (fun _ hp => .inl hp) fun v hv => .inl (old v hv)

end Reasons

/-- A call that waits for processes has counted those that are reaped, but for the counts that are
still to come. -/
structure Watch (w : Shop) (v : Vigil) : Prop where
  nodup : v.pids.Nodup
  known : ∀ pid ∈ v.pids, pid ∈ w.house.shots.pids
  missing : v.missing =
    v.pids.countP (fun pid => !w.house.shots.isReaped pid) + w.jobs.count (.count v.id)

structure Watches (w : Shop) : Prop where
  each : ∀ v ∈ w.house.shots.vigils, Watch w v
  counts : ∀ id, .count id ∈ w.jobs → ∃ v ∈ w.house.shots.vigils, v.id = id

namespace Watches

/-- A move that reaps nothing and counts nothing. -/
theorem same (ws : Watches w) (vigils : t.shots.vigils = w.house.shots.vigils)
    (pids : ∀ pid ∈ w.house.shots.pids, pid ∈ t.shots.pids ∧
      t.shots.isReaped pid = w.house.shots.isReaped pid)
    (counts : ∀ id, (jobs ++ t.jobs).count (.count id) = w.jobs.count (.count id)) :
    Watches (w.next a t jobs) := by
  refine ⟨fun v hv => ?_, fun id hid => ?_⟩
  · have old := ws.each v (vigils ▸ hv)
    refine ⟨old.nodup, fun pid h => (pids pid (old.known pid h)).1, ?_⟩
    refine old.missing.trans (congrArg₂ _ (List.countP_congr fun pid h => ?_) (counts v.id).symm)
    show _ ↔ (!t.shots.isReaped pid) = true
    rw [(pids pid (old.known pid h)).2]
  · have old : .count id ∈ w.jobs := by
      rw [← List.count_pos_iff, ← counts id]
      exact List.count_pos_iff.mpr hid
    exact vigils ▸ ws.counts id old

/-- With one process more reaped there is one less to be counted. -/
theorem countP_reaped {p q : Pid → Bool} {pid : Pid} (before : p pid = true)
    (after : ∀ k, q k = (p k && k != pid)) (pids : List Pid) :
    pids.countP p = pids.countP q + pids.count pid := by
  induction pids with
  | nil => rfl
  | cons k ks ih =>
    simp only [List.countP_cons, List.count_cons, ih, after]
    by_cases h : k = pid
    · simp [h, before]
      omega
    · simp [h]
      omega

/-- Every call that waits for a process is to count it once. -/
theorem count_counting {vs : List Vigil} (nodup : (vs.map (·.id)).Nodup) {v : Vigil} (mem : v ∈ vs)
    (p : Vigil → Bool) :
    ((vs.filter p).map fun v => OneShot.Job.count v.id).count (.count v.id) =
      if p v then 1 else 0 := by
  have inj : Function.Injective OneShot.Job.count := fun _ _ => OneShot.Job.count.inj
  have map_eq : ((vs.filter p).map fun v => OneShot.Job.count v.id) =
      ((vs.filter p).map (·.id)).map OneShot.Job.count := by simp
  rw [map_eq, List.count_map_of_injective _ _ inj,
    (nodup.sublist (List.filter_sublist.map _)).count]
  refine if_congr ?_ rfl rfl
  rw [List.mem_map]
  constructor
  · rintro ⟨u, hu, same⟩
    obtain ⟨hu, pu⟩ := List.mem_filter.mp hu
    exact List.inj_on_of_nodup_map nodup hu mem same ▸ pu
  · exact fun pv => ⟨v, List.mem_filter.mpr ⟨mem, pv⟩, rfl⟩

/-- The processes on the list are reaped, or are to be. -/
theorem length_listed (c : Children w) : w.house.shots.listed.length =
    (w.house.shots.listed.map (·.pid)).countP (fun pid => !w.house.shots.isReaped pid) +
      (w.house.shots.listed.filter (·.reaper = .done)).length := by
  rw [List.countP_map, ← List.countP_eq_length_filter, Nat.add_comm,
    List.length_eq_countP_add_countP (fun x : Shot => decide (x.reaper = .done))]
  congr 1
  refine List.countP_congr fun x hx => ?_
  simp [Shots.isReaped_eq c.nodup (List.mem_filter.mp hx).1]

theorem move (ws : Watches w) (calls : Calls w) (c : Children w) (move : Move w a t jobs) :
    Watches (w.next a t jobs) := by
  have kept {j : OneShot.Job} {l : List OneShot.Job} (other : ∀ id, j ≠ .count id)
      (none : ∀ id, .count id ∉ l) (id : CallId) :
      (w.jobs.erase j ++ l).count (.count id) = w.jobs.count (.count id) := by
    rw [List.count_append, List.count_eq_zero.mpr (none id), List.count_erase_of_ne (other id).symm]
    rfl
  -- What happens to one entry without its process being reaped.
  have entry {x y : Shot} (child : x ∈ w.house.shots.shots) (same : y.pid = x.pid)
      (reaper : y.reaper = .done ↔ x.reaper = .done) (pid : Pid)
      (h : pid ∈ w.house.shots.pids) : pid ∈ (w.house.shots.setShot y).pids ∧
        (w.house.shots.setShot y).isReaped pid = w.house.shots.isReaped pid := by
    refine ⟨by simpa using h, ?_⟩
    rw [Shots.isReaped_setShot c.nodup child same]
    split
    case isTrue h => rw [h, same, Shots.isReaped_eq c.nodup child, decide_eq_decide.mpr reaper]
    case isFalse => rfl
  have vigils : (w.house.shots.vigils.map (·.id)).Nodup :=
    (List.nodup_append.mp calls.waiting_nodup).2.1
  cases move with
  | refuse => exact ws.same rfl (fun _ h => ⟨h, rfl⟩) (by simp)
  | ask => exact ws.same rfl (fun _ h => ⟨h, rfl⟩) (by simp [List.count_append])
  | pass => exact ws.same rfl (fun _ h => ⟨h, rfl⟩) (by simp)
  | @wait id fresh =>
    have new : ∀ v ∈ w.house.shots.vigils, v.id ≠ id := fun v hv h =>
      calls.not_waiting fresh (List.mem_append_right _ (h ▸ List.mem_map_of_mem hv))
    have none : .count id ∉ w.jobs := fun h => by
      obtain ⟨v, hv, same⟩ := ws.counts id h
      exact new v hv same
    refine ⟨fun v hv => ?_, fun k hk => ?_⟩
    · rcases List.mem_append.mp hv with hv | hv
      · have old := ws.each v hv
        refine ⟨old.nodup, old.known, old.missing.trans (congrArg₂ _ rfl ?_)⟩
        have others : (.count v.id : OneShot.Job) ∉
            (w.house.shots.listed.filter (·.reaper = .done)).map fun _ => .count id := by
          simpa using fun _ _ _ => new v hv
        simp only [Shop.next, List.count_append, List.count_eq_zero.mpr others, Nat.add_zero]
      · obtain rfl := List.mem_singleton.mp hv
        refine ⟨c.nodup.sublist (List.filter_sublist.map _), fun pid h => ?_, ?_⟩
        · exact (List.filter_sublist.map _).subset h
        · refine (length_listed c).trans (congrArg₂ _ rfl ?_)
          simp [Shop.next, List.count_append, List.count_eq_zero.mpr none]
    · rcases List.mem_append.mp hk with hk | hk
      · obtain ⟨v, hv, same⟩ := ws.counts k hk
        exact ⟨v, List.mem_append_left _ hv, same⟩
      · obtain ⟨-, -, same⟩ := List.mem_map.mp hk
        exact ⟨_, List.mem_append_right _ (List.mem_singleton.mpr rfl), by simpa using same⟩
  | miss => exact ws.same rfl (fun _ h => ⟨h, rfl⟩) (kept (by simp) (by simp))
  | @launch p waits pid fresh extra =>
    refine ws.same rfl (fun q h => ⟨?_, ?_⟩) (kept (by simp) (by simp))
    · simp only [Shots.pids, List.map_append]
      exact List.mem_append_left _ h
    · simp [Shots.isReaped]
  | @doze x child runs unreaped =>
    exact ws.same rfl (entry child rfl (by simp [unreaped])) (kept (by simp) (by simp))
  | @reap x child code ended unreaped =>
    have isReaped (pid : Pid) : (w.house.shots.setShot { x with reaper := .done }).isReaped pid =
        (w.house.shots.isReaped pid || pid == x.pid) := by
      rw [Shots.isReaped_setShot (y := { x with reaper := .done }) c.nodup child rfl]
      split <;> simp_all
    refine ⟨fun v hv => ?_, fun id hid => ?_⟩
    · have old := ws.each v hv
      refine ⟨old.nodup, fun pid h => by simpa [Shop.next] using old.known pid h, ?_⟩
      have before : (!w.house.shots.isReaped x.pid) = true := by
        simpa [Shots.isReaped_eq c.nodup child] using unreaped
      have fewer := countP_reaped (p := fun pid => !w.house.shots.isReaped pid)
        (q := fun pid => !(w.house.shots.setShot { x with reaper := .done }).isReaped pid)
        before (fun pid => by simp [isReaped, bne]) v.pids
      have once := count_counting vigils hv fun v => v.pids.contains x.pid
      show v.missing = List.countP (fun pid =>
          !(w.house.shots.setShot { x with reaper := .done }).isReaped pid) v.pids +
        List.count (.count v.id) (w.jobs.erase (.reap x.pid) ++ .forget x.pid :: _)
      rw [List.count_append, List.count_cons_of_ne (by simp), once,
        List.count_erase_of_ne (by simp), old.missing, fewer, old.nodup.count]
      simp only [List.contains_iff_mem]
      omega
    · rcases List.mem_append.mp hid with hid | hid
      · exact ws.counts id (List.mem_of_mem_erase hid)
      · obtain ⟨v, hv, same⟩ := List.mem_map.mp (List.mem_of_ne_of_mem (by simp) hid)
        exact ⟨v, (List.mem_filter.mp hv).1, by simpa using same⟩
  | @exit x child runs code =>
    have unreaped : x.reaper ≠ .done := fun h => by
      simpa [runs] using (c.entries x child).reaped h
    refine ws.same rfl (entry child rfl ?_) fun id => ?_
    · split <;> simp_all
    · split <;> simp [List.count_append]
  | @forget x child ready =>
    exact ws.same rfl (entry child rfl .rfl) (kept (by simp) (by simp))
  | @count id ready more last =>
    have none (k : CallId) : (.count k : OneShot.Job) ∉ more := by
      rcases last with rfl | rfl <;> simp
    have jobs (k : CallId) : (w.jobs.erase (.count id) ++ more).count (.count k) =
        (w.jobs.erase (.count id)).count (.count k) := by
      rw [List.count_append, List.count_eq_zero.mpr (none k), Nat.add_zero]
    refine ⟨fun v hv => ?_, fun k hk => ?_⟩
    · obtain ⟨u, hu, rfl⟩ := List.mem_map.mp hv
      have old := ws.each u hu
      split
      case isTrue h =>
        refine ⟨old.nodup, old.known, ?_⟩
        have some := List.count_pos_iff.mpr ready
        have missing := old.missing
        show u.missing - 1 = _ + (w.jobs.erase (.count id) ++ more).count (.count u.id)
        rw [jobs, h, List.count_erase_self]
        rw [h] at missing
        simp only [Shop.next, Shots.isReaped] at missing ⊢
        omega
      case isFalse ne =>
        refine ⟨old.nodup, old.known, old.missing.trans (congrArg₂ _ rfl ?_)⟩
        show _ = (w.jobs.erase (.count id) ++ more).count (.count u.id)
        rw [jobs, List.count_erase_of_ne (by simpa using ne)]
    · have old := (List.mem_append.mp hk).resolve_right (none k)
      obtain ⟨v, hv, same⟩ := ws.counts k (List.mem_of_mem_erase old)
      refine ⟨_, List.mem_map_of_mem hv, ?_⟩
      split <;> exact same
  | @resume v waits missing =>
    refine ⟨fun u hu => ?_, fun k hk => ?_⟩
    · have old := ws.each u (List.mem_filter.mp hu).1
      exact ⟨old.nodup, old.known, old.missing.trans (congrArg₂ _ rfl
        (kept (j := .resume v.id) (l := []) (by simp) (by simp) u.id).symm)⟩
    · have hk' : .count k ∈ w.jobs := by simpa [Shop.next] using hk
      obtain ⟨u, hu, rfl⟩ := ws.counts k hk'
      refine ⟨u, List.mem_filter.mpr ⟨hu, ?_⟩, rfl⟩
      have some := List.count_pos_iff.mpr hk'
      have none := (ws.each v waits).missing
      simpa using fun h : u.id = v.id => by rw [h] at some; omega
  | idle calm job => exact ws.same rfl (fun _ h => ⟨h, rfl⟩) (kept job (by simp))

end Watches

/-! ## All books -/

structure Books (w : Shop) : Prop where
  calls : Calls w
  children : Children w
  reasons : Reasons w
  watches : Watches w

namespace Books

theorem opening {h : House} (fresh : h.shots = {}) (none : launches h.trace = []) :
    Books (.opening h) where
  calls := by
    constructor <;> simp [Shop.opening, called, returned, Shots.waiting, fresh]
  children := by
    constructor <;> simp [Shop.opening, Shots.pids, fresh, none, Ended]
  reasons := by
    constructor <;> simp [Shop.opening, fresh]
  watches := by
    constructor <;> simp [Shop.opening, fresh]

/-- The rest of the program leaves the books alone. -/
theorem other (books : Books w) {h : House} (shots : h.shots = w.house.shots)
    (spawned : launches h.trace = launches w.house.trace) : Books { w with house := h } where
  calls := by
    refine ⟨books.calls.nodup, ?_⟩
    show w.called.Perm (w.returned ++ h.shots.waiting)
    exact shots ▸ books.calls.settled
  children := by
    obtain ⟨nodup, created, entries, known, leaving⟩ := books.children
    constructor <;> simpa only [shots, spawned]
  reasons := by
    obtain ⟨asked, watching⟩ := books.reasons
    constructor <;> simpa only [shots]
  watches := by
    obtain ⟨each, counts⟩ := books.watches
    refine ⟨fun v hv => ?_, by simpa only [shots]⟩
    obtain ⟨nodup, known, missing⟩ := each v (shots ▸ hv)
    constructor <;> simpa only [shots]

theorem step (books : Books w) (step : Step w w') : Books w' := by
  rcases step.move with ⟨a, t, jobs, move, same, rfl⟩ | ⟨h, shots, spawned, rfl⟩
  · exact ⟨books.calls.move move same, books.children.move move, books.reasons.move move,
      books.watches.move books.calls books.children move⟩
  · exact books.other shots spawned

theorem of_reaches {h : House} (fresh : h.shots = {}) (none : launches h.trace = [])
    (reach : Reaches (.opening h) w) : Books w := by
  induction reach with
  | refl => exact opening fresh none
  | tail _ step ih => exact ih.step step

end Books

end Shop
end ToolHost

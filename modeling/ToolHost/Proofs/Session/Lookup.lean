import Mathlib
import ToolHost.Session.Turn

/-!
# Looking things up in a room

Processes, latches and calls are kept in lists. What a look-up finds after a change is stated here
once; a process is looked up by its number, a call by its id, and a call has a place in the room
apart from whether it sleeps.
-/
namespace ToolHost.Session

namespace Room

/-- The numbers of all processes that were ever created for a name. -/
def pids (r : Room) : List Pid := r.children.map (·.pid)

theorem child?_isSome (r : Room) (pid : Pid) : (r.child? pid).isSome ↔ pid ∈ r.pids := by
  simp [child?, pids, List.find?_isSome]

theorem pid_of_child? {r : Room} {pid : Pid} {c : Child} (h : r.child? pid = some c) :
    c.pid = pid := by simpa using List.find?_some h

@[simp] theorem child_pid (r : Room) (pid : Pid) : (r.child pid).pid = pid := by
  unfold child
  cases h : r.child? pid with
  | none => rfl
  | some c => exact pid_of_child? h

theorem child_of_child? {r : Room} {pid : Pid} {c : Child} (h : r.child? pid = some c) :
    r.child pid = c := by simp [child, h]

@[simp] theorem pids_setChild (r : Room) (c : Child) : (r.setChild c).pids = r.pids := by
  simp only [pids, setChild, List.map_map]
  apply List.map_congr_left
  intro d _
  by_cases h : d.pid = c.pid <;> simp [h]

theorem child?_setChild (r : Room) (c : Child) (pid : Pid) :
    (r.setChild c).child? pid =
      if pid = c.pid then (r.child? pid).map fun _ => c else r.child? pid := by
  simp only [child?, setChild]
  induction r.children with
  | nil => simp
  | cons d rest ih =>
    simp only [List.map_cons, List.find?_cons]
    by_cases hd : d.pid = c.pid <;> by_cases hp : pid = c.pid
    · simp [hd, hp]
    · have : ¬ c.pid = pid := fun e => hp e.symm
      simpa [hd, this, hp] using ih
    · have hn : ¬ d.pid = pid := fun e => hd (e.trans hp)
      simpa [hd, hn, hp] using ih
    · by_cases hdp : d.pid = pid
      · simp [hdp, hp]
      · simpa [hd, hp, hdp] using ih

theorem child?_setChild_self (r : Room) (c : Child) :
    (r.setChild c).child? c.pid = (r.child? c.pid).map fun _ => c := by
  simp [child?_setChild]

theorem child_setChild (r : Room) (c : Child) (pid : Pid) :
    (r.setChild c).child pid = if pid = c.pid ∧ pid ∈ r.pids then c else r.child pid := by
  simp only [child, child?_setChild]
  by_cases hp : pid = c.pid
  · by_cases hm : pid ∈ r.pids
    · obtain ⟨d, hd⟩ := Option.isSome_iff_exists.mp ((r.child?_isSome pid).mpr hm)
      rw [hp] at hd hm
      simp [hp, hm, hd]
    · have : r.child? pid = none := by simpa [← child?_isSome] using hm
      simp [hm, this]
  · simp [hp]

theorem child?_adopt (r : Room) (dir : Machine.Path) (b : Birth) (pid : Pid)
    (fresh : b.pid ∉ r.pids) :
    (r.adopt dir b).child? pid =
      if pid = b.pid then some { pid := b.pid, dir, traits := b.traits } else r.child? pid := by
  have absent : r.child? b.pid = none := by
    simpa [← child?_isSome] using fresh
  by_cases h : pid = b.pid
  · subst h
    simp only [child?] at absent
    simp [child?, adopt, List.find?_append, absent]
  · have : ¬ b.pid = pid := fun e => h e.symm
    simp [child?, adopt, List.find?_append, h, this]

theorem pids_congr {r q : Room} (h : q.children = r.children) : q.pids = r.pids := by
  unfold pids
  rw [h]

theorem child_congr {r q : Room} (h : q.children = r.children) (pid : Pid) :
    q.child pid = r.child pid := by
  unfold child child?
  rw [h]

theorem live?_eq_some {r : Room} {v : View} (h : r.live? = some v) :
    r.recorded = some v.pid ∧ (r.child v.pid).isLive := by
  unfold live? at h
  split at h
  · rename_i pid hp
    split at h
    · rename_i hl
      cases h
      exact ⟨hp, hl⟩
    · cases h
  · cases h

/-! Latches. -/

theorem latchAt_setLatch_self (r : Room) {n : Nat} (l : Latch) (h : n ∈ r.latches.map (·.1)) :
    (r.setLatch n l).latchAt n = l := by
  simp only [latchAt, setLatch]
  generalize r.latches = ls at *
  induction ls with
  | nil => simp at h
  | cons e rest ih =>
    obtain ⟨k, x⟩ := e
    by_cases hk : k = n
    · simp [hk]
    · have hn : (n == k) = false := by simpa using fun e => hk e.symm
      have hr : n ∈ rest.map (·.1) := by
        rcases List.mem_cons.mp h with e | h
        · exact absurd e.symm hk
        · exact h
      simpa [List.lookup_cons, hk, hn] using ih hr

@[simp] theorem map_fst_setLatch (r : Room) (n : Nat) (l : Latch) :
    (r.setLatch n l).latches.map (·.1) = r.latches.map (·.1) := by
  simp only [setLatch, List.map_map]
  apply List.map_congr_left
  intro e _
  by_cases h : e.1 = n <;> simp [h]

/-! Calls. -/

theorem mem_of_caller? {r : Room} {id : CallId} {c : Caller} (h : r.caller? id = some c) :
    c ∈ r.callers := List.mem_of_find?_eq_some h

theorem id_of_caller? {r : Room} {id : CallId} {c : Caller} (h : r.caller? id = some c) :
    c.id = id := by simpa using List.find?_some h

end Room

theorem Turn.child_setChild {t : Turn} {c : Child} {pid : Pid} (hc : c.pid = pid)
    (mem : pid ∈ t.room.pids) : (t.setChild c).child pid = c := by
  change (t.room.setChild c).child pid = c
  rw [Room.child_setChild, if_pos ⟨hc.symm, mem⟩]

@[simp] theorem Turn.pids_pop (t : Turn) (pid : Pid) : (t.pop pid).room.pids = t.room.pids :=
  Room.pids_setChild { t.room with recorded := none } _

/-- A process is taken from the record: its session is stopped, and it goes on as it did. -/
theorem Turn.child_pop (t : Turn) (pid p : Pid) : (t.pop pid).room.child p =
    if p = pid ∧ p ∈ t.room.pids then { t.room.child p with isStopped := true }
    else t.room.child p := by
  have eq := Room.child_setChild { t.room with recorded := none }
    { t.child pid with isStopped := true } p
  have own : (t.child pid).pid = pid := t.room.child_pid pid
  by_cases h : p = pid ∧ p ∈ t.room.pids
  · rw [if_pos h]
    obtain ⟨rfl, mem⟩ := h
    exact eq.trans (if_pos ⟨own.symm, mem⟩)
  · rw [if_neg h]
    exact eq.trans (if_neg fun k => h ⟨k.1.trans own, k.2⟩)

/-- The input of a process is closed if it has one. -/
theorem Turn.child_closeInput (t : Turn) (pid p : Pid) : (t.closeInput pid).room.child p =
    if p = pid ∧ p ∈ t.room.pids then
      { t.room.child p with
        inputClosed := (t.room.child p).traits.hasInput || (t.room.child p).inputClosed }
    else t.room.child p := by
  have own : (t.child pid).pid = pid := t.room.child_pid pid
  unfold closeInput
  simp only
  split
  · next isOpen =>
    rw [Bool.and_eq_true] at isOpen
    have set := Room.child_setChild t.room { t.child pid with inputClosed := true } p
    change (t.room.setChild { t.child pid with inputClosed := true }).child p = _
    rw [set]
    by_cases h : p = pid ∧ p ∈ t.room.pids
    · rw [if_pos h, if_pos ⟨h.1.trans own.symm, h.2⟩]
      obtain ⟨rfl, -⟩ := h
      have hasInput : (t.room.child p).traits.hasInput = true := isOpen.1
      rw [hasInput]
      rfl
    · rw [if_neg h, if_neg fun k => h ⟨k.1.trans own, k.2⟩]
  · next isClosed =>
    split
    · next h =>
      obtain ⟨rfl, -⟩ := h
      have same : ((t.room.child p).traits.hasInput || (t.room.child p).inputClosed) =
          (t.room.child p).inputClosed := by
        change ¬ ((t.room.child p).traits.hasInput && !(t.room.child p).inputClosed) = true
          at isClosed
        revert isClosed
        cases (t.room.child p).traits.hasInput <;> cases (t.room.child p).inputClosed <;> simp
      rw [same]
    · rfl

theorem Turn.callers_closeInput (t : Turn) (pid : Pid) :
    (t.closeInput pid).room.callers = t.room.callers := by
  unfold closeInput
  simp only
  split <;> rfl

theorem Turn.alarms_closeInput (t : Turn) (pid : Pid) : (t.closeInput pid).alarms = t.alarms := by
  unfold closeInput
  simp only
  split <;> rfl

theorem Turn.trace_closeInput (t : Turn) (pid : Pid) : (t.closeInput pid).trace = t.trace ∨
    (t.closeInput pid).trace = .inputClosed pid :: t.trace := by
  unfold closeInput
  simp only
  split
  · exact .inr rfl
  · exact .inl rfl

/-- A call at its place, be it asleep or not. -/
def Caller.place (c : Caller) : Caller := { c with wake := .asleep }

@[simp] theorem Caller.place_id (c : Caller) : c.place.id = c.id := rfl

@[simp] theorem Caller.place_latch (c : Caller) : c.place.latch = c.latch := rfl

@[simp] theorem Caller.place_phase (c : Caller) : c.place.phase = c.phase := rfl

/-- The places of the calls that wait in a room. -/
def Room.places (r : Room) : List Caller := r.callers.map Caller.place

/-- The calls that wait in a room. -/
def Room.ids (r : Room) : List CallId := r.callers.map (·.id)

theorem Room.ids_eq (r : Room) : r.ids = r.places.map (·.id) := by
  simp [ids, places, Function.comp_def]

/-- A call that is taken out is the only one of its id. -/
theorem Room.perm_of_mem {r : Room} (nodup : r.ids.Nodup) {c : Caller} (h : c ∈ r.callers) :
    r.callers.Perm (c :: r.callers.filter (·.id != c.id)) := by
  unfold ids at nodup
  generalize r.callers = cs at *
  induction cs with
  | nil => simp at h
  | cons d rest ih =>
    simp only [List.map_cons, List.nodup_cons] at nodup
    rcases List.mem_cons.mp h with rfl | h
    · have : rest.filter (·.id != c.id) = rest := by
        apply List.filter_eq_self.mpr
        intro e he
        have hne : e.id ≠ c.id := fun x => nodup.1 (x ▸ List.mem_map_of_mem he)
        simpa using hne
      simp [this]
    · have hne : d.id ≠ c.id := fun e => nodup.1 (e ▸ List.mem_map_of_mem h)
      simp only [List.filter_cons, bne_iff_ne, ne_eq, hne, not_false_eq_true, if_true]
      exact ((ih nodup.2 h).cons d).trans (List.Perm.swap c d _)

end ToolHost.Session

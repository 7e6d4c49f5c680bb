import Mathlib
import ToolHost.Proofs.Session.Closing

/-!
# Forgetting the past

A room keeps what is over: processes that have ended, lines that wait to be taken by them, latches
that were given up. Whatever is done in the room does the same where all that is left out.
-/
namespace ToolHost.Session

/-- The process that a call sees to its end. -/
def Phase.pid? : Phase → Option Pid
  | .grace pid | .reaping pid | .joining pid => some pid
  | .queued | .spawning _ | .draining => none

/-- What is over in a room: processes, lines on their way to them, and the latches up to one. -/
structure Past where
  pids : List Pid
  ids : List CallId
  latches : Nat

namespace Past

variable (o : Past)

/-- A call, with the latches counted from the past on. -/
def caller (c : Caller) : Caller := { c with latch := c.latch.map (· - o.latches) }

/-- A visit, with the latches counted from the past on. -/
def visit (v : Visit) : Visit := { v with latch := v.latch - o.latches }

/-- The calls that are not of the past. -/
def callers (cs : List Caller) : List Caller := (cs.filter fun c => c.id ∉ o.ids).map o.caller

/-- A visit that is not of the past. -/
structure Precedes (v : Visit) : Prop where
  id : v.id ∉ o.ids
  latch : o.latches ≤ v.latch

/-- The calls of the past wait for nothing but their line to be taken. -/
def Drains (r : Room) : Prop := ∀ c ∈ r.places, c.id ∈ o.ids → c.phase = .draining

variable {o}

theorem Drains.keep {r q : Room} (h : o.Drains r) (places : q.places = r.places) : o.Drains q :=
  fun c hc => h c (places ▸ hc)

theorem Drains.phase {r : Room} (h : o.Drains r) {c : Caller} (hc : c ∈ r.callers)
    (hi : c.id ∈ o.ids) : c.phase = .draining :=
  h c.place (List.mem_map_of_mem hc) hi

end Past

/-- A room without what is of the past. -/
def Room.forget (o : Past) (r : Room) : Room :=
  { r with
    latches := (r.latches.filter fun e => o.latches ≤ e.1).map fun e => (e.1 - o.latches, e.2)
    latch := r.latch.map (· - o.latches)
    children := r.children.filter fun c => c.pid ∉ o.pids
    callers := o.callers r.callers }

/-- The turn of a room without what is of the past. -/
def Turn.forget (o : Past) (t : Turn) : Turn := { t with room := t.room.forget o }

/-! ## Calls -/

namespace Past

variable (o : Past)

theorem callers_append (cs : List Caller) {c : Caller} (hc : c.id ∉ o.ids) :
    o.callers (cs ++ [c]) = o.callers cs ++ [o.caller c] := by
  simp [callers, hc]

theorem callers_map (cs : List Caller) (g g' : Caller → Caller) (id : ∀ c, (g c).id = c.id)
    (caller : ∀ c, g' (o.caller c) = o.caller (g c)) :
    (o.callers cs).map g' = o.callers (cs.map g) := by
  have same : ((fun c : Caller => decide (c.id ∉ o.ids)) ∘ g) = fun c => decide (c.id ∉ o.ids) := by
    funext c
    simp [id c]
  unfold callers
  rw [List.filter_map, List.map_map, List.map_map, same]
  exact List.map_congr_left fun c _ => caller c

/-- What is said about calls that are not of the past is said about the same ones. -/
theorem map_filter_callers {α : Type} (cs : List Caller) (p : Caller → Bool) (f : Caller → α)
    (past : ∀ c ∈ cs, c.id ∈ o.ids → p c = false) (hp : ∀ c, p (o.caller c) = p c)
    (hf : ∀ c, f (o.caller c) = f c) :
    ((o.callers cs).filter p).map f = (cs.filter p).map f := by
  have comp : p ∘ o.caller = p := funext hp
  have kept : (cs.filter fun c => c.id ∉ o.ids).filter p = cs.filter p := by
    rw [List.filter_filter]
    refine List.filter_congr fun c hc => ?_
    by_cases hi : c.id ∈ o.ids
    · simp [past c hc hi]
    · simp [hi]
  unfold callers
  rw [List.filter_map, List.map_map, comp, kept]
  exact List.map_congr_left fun c _ => hf c

theorem callers_filter_id (cs : List Caller) (id : CallId) :
    (o.callers cs).filter (·.id != id) = o.callers (cs.filter (·.id != id)) := by
  unfold callers
  rw [List.filter_map, List.filter_filter, List.filter_filter]
  refine congrArg _ (List.filter_congr fun c _ => ?_)
  exact Bool.and_comm _ _

end Past

/-! ## Rooms -/

namespace Room

variable (o : Past) (r : Room)

theorem forget_child? {pid : Pid} (hp : pid ∉ o.pids) : (r.forget o).child? pid = r.child? pid := by
  unfold child? forget
  rw [List.find?_filter]
  refine congrArg (r.children.find? ·) (funext fun c => ?_)
  by_cases hc : c.pid = pid
  · simp [hc, hp]
  · simp [hc]

theorem forget_child {pid : Pid} (hp : pid ∉ o.pids) : (r.forget o).child pid = r.child pid := by
  rw [child, forget_child? o r hp]
  rfl

theorem forget_setChild (c : Child) : (r.forget o).setChild c = (r.setChild c).forget o := by
  have same : ((fun d : Child => decide (d.pid ∉ o.pids)) ∘
      fun d => if d.pid = c.pid then c else d) = fun d => decide (d.pid ∉ o.pids) := by
    funext d
    by_cases hd : d.pid = c.pid <;> simp [hd]
  simp only [setChild, forget, List.filter_map, same]

theorem forget_setChild_past {c : Child} (hc : c.pid ∈ o.pids) :
    (r.setChild c).forget o = r.forget o := by
  have same : (r.children.map fun d => if d.pid = c.pid then c else d).filter
      (fun d => d.pid ∉ o.pids) = r.children.filter fun d => d.pid ∉ o.pids := by
    generalize r.children = cs
    induction cs with
    | nil => rfl
    | cons d rest ih =>
      by_cases hd : d.pid = c.pid
      · simpa [hd, hc] using ih
      · by_cases hp : d.pid ∈ o.pids <;> simpa [hd, hp] using ih
  simp only [setChild, forget, same]

theorem forget_caller? {id : CallId} (hi : id ∉ o.ids) :
    (r.forget o).caller? id = (r.caller? id).map o.caller := by
  unfold caller? forget Past.callers
  rw [List.find?_map, List.find?_filter]
  refine congrArg (fun p => (r.callers.find? p).map o.caller) (funext fun c => ?_)
  by_cases hc : c.id = id
  · simp [Past.caller, hc, hi]
  · simp [Past.caller, hc]

theorem forget_setCaller (c : Caller) :
    (r.forget o).setCaller (o.caller c) = (r.setCaller c).forget o := by
  have same := o.callers_map r.callers (fun d => if d.id = c.id then c else d)
    (fun d => if d.id = c.id then o.caller c else d)
    (fun d => by by_cases hd : d.id = c.id <;> simp [hd])
    (fun d => by by_cases hd : d.id = c.id <;> simp [hd, Past.caller])
  unfold forget setCaller
  simp only [Room.mk.injEq, true_and]
  exact same

theorem forget_setCaller_past {c : Caller} (hc : c.id ∈ o.ids) :
    (r.setCaller c).forget o = r.forget o := by
  have same : o.callers (r.callers.map fun d => if d.id = c.id then c else d) =
      o.callers r.callers := by
    generalize r.callers = cs
    unfold Past.callers
    induction cs with
    | nil => rfl
    | cons d rest ih =>
      by_cases hd : d.id = c.id
      · simpa [hd, hc] using ih
      · by_cases hi : d.id ∈ o.ids <;> simpa [hd, hi] using ih
  exact congrArg (fun cs => { r.forget o with callers := cs }) same

theorem forget_latchAt {n : Nat} (hn : o.latches ≤ n) :
    (r.forget o).latchAt (n - o.latches) = r.latchAt n := by
  have same : ((r.latches.filter fun e => o.latches ≤ e.1).map
      fun e => (e.1 - o.latches, e.2)).lookup (n - o.latches) = r.latches.lookup n := by
    generalize r.latches = ls
    induction ls with
    | nil => rfl
    | cons e rest ih =>
      obtain ⟨k, l⟩ := e
      by_cases hk : o.latches ≤ k
      · by_cases hkn : n = k
        · simp [hk, hkn]
        · have hs : (n - o.latches == k - o.latches) = false := by
            simp only [beq_eq_false_iff_ne, ne_eq]
            omega
          have hb : (n == k) = false := by simpa using hkn
          simpa [hk, List.lookup_cons, hs, hb] using ih
      · have hb : (n == k) = false := by
          simp only [beq_eq_false_iff_ne, ne_eq]
          omega
        simpa [hk, List.lookup_cons, hb] using ih
  unfold latchAt
  exact congrArg (·.getD {}) same

theorem forget_setLatch {n : Nat} (hn : o.latches ≤ n) (l : Latch) :
    (r.forget o).setLatch (n - o.latches) l = (r.setLatch n l).forget o := by
  have same : ((r.latches.filter fun e => o.latches ≤ e.1).map
        fun e => (e.1 - o.latches, e.2)).map
          (fun e => if e.1 = n - o.latches then (n - o.latches, l) else e) =
      ((r.latches.map fun e => if e.1 = n then (n, l) else e).filter fun e => o.latches ≤ e.1).map
        fun e => (e.1 - o.latches, e.2) := by
    generalize r.latches = ls
    induction ls with
    | nil => rfl
    | cons e rest ih =>
      obtain ⟨k, m⟩ := e
      by_cases hk : o.latches ≤ k
      · by_cases hkn : k = n
        · simpa [hkn, hn] using ih
        · have hs : ¬ k - o.latches = n - o.latches := by omega
          simpa [hk, hkn, hs] using ih
      · have hkn : ¬ k = n := by omega
        simpa [hk, hkn] using ih
  unfold forget setLatch
  simp only [Room.mk.injEq, true_and, and_true]
  exact same

theorem forget_changeLatch {n : Nat} (hn : o.latches ≤ n) (f : Latch → Latch) :
    (r.forget o).setLatch (n - o.latches) (f ((r.forget o).latchAt (n - o.latches))) =
      (r.setLatch n (f (r.latchAt n))).forget o := by
  rw [forget_latchAt o r hn, forget_setLatch o r hn]

/-- How many latches are left. -/
theorem forget_length_latches (numbered : Numbered r) :
    (r.forget o).latches.length = r.latches.length - o.latches := by
  have count (n : Nat) :
      (List.range n).countP (fun k => decide (o.latches ≤ k)) = n - o.latches := by
    induction n with
    | zero => simp
    | succ n ih =>
      rw [List.range_succ, List.countP_append, ih]
      by_cases hn : o.latches ≤ n
      · simp only [List.countP_singleton, hn, decide_true, if_true]
        omega
      · simp only [List.countP_singleton, hn, decide_false, Bool.false_eq_true, if_false]
        omega
  have fst : r.latches.countP (fun e => decide (o.latches ≤ e.1)) =
      (r.latches.map (·.1)).countP fun k => decide (o.latches ≤ k) := by
    rw [List.countP_map]
    rfl
  rw [forget, List.length_map, ← List.countP_eq_length_filter, fst, numbered.numbers, count]

theorem forget_latchNumber (numbered : Numbered r) :
    (r.forget o).latchNumber = r.latchNumber - o.latches := by
  unfold latchNumber
  rw [forget_length_latches o r numbered]
  change (r.latch.map (· - o.latches)).getD _ = _
  cases r.latch <;> rfl

theorem forget_knock (numbered : Numbered r) (hn : o.latches ≤ r.latchNumber) :
    (r.forget o).knock = r.knock.forget o := by
  have number := forget_latchNumber o r numbered
  unfold knock
  simp only [number]
  cases hl : r.latch with
  | some n => simp [forget, hl]
  | none =>
    have hn : o.latches ≤ r.latches.length := by simpa [latchNumber, hl] using hn
    simp [forget, hl, latchNumber, hn]

theorem forget_adopt (dir : Machine.Path) {b : Birth} (hb : b.pid ∉ o.pids) :
    (r.forget o).adopt dir b = (r.adopt dir b).forget o := by
  simp [adopt, forget, hb]

theorem forget_session {pid : Pid} (hp : pid ∉ o.pids) :
    (r.forget o).session pid = r.session pid := by
  unfold session
  rw [forget_child o r hp]
  rfl

theorem forget_live? (recorded : ∀ p, r.recorded = some p → p ∉ o.pids) :
    (r.forget o).live? = r.live? := by
  have same : (r.forget o).recorded = r.recorded := rfl
  unfold live?
  rw [same]
  cases hr : r.recorded with
  | none => rfl
  | some pid =>
    simp only [forget_child o r (recorded pid hr), forget_session o r (recorded pid hr)]

end Room

/-! ## Turns -/

namespace Turn

variable (o : Past) (t : Turn) (s : Setting) {v : Visit}

theorem forget_recorded : (t.forget o).room.recorded = t.room.recorded := rfl

theorem forget_caller? {id : CallId} (hi : id ∉ o.ids) :
    (t.forget o).room.caller? id = (t.room.caller? id).map o.caller :=
  t.room.forget_caller? o hi

theorem forget_child {pid : Pid} (hp : pid ∉ o.pids) : (t.forget o).child pid = t.child pid :=
  t.room.forget_child o hp

theorem forget_setChild (c : Child) : (t.forget o).setChild c = (t.setChild c).forget o :=
  congrArg (fun r => { t with room := r }) (t.room.forget_setChild o c)

theorem forget_park {c : Caller} (hc : c.id ∉ o.ids) :
    (t.forget o).park (o.caller c) = (t.park c).forget o := by
  unfold park forget Room.forget
  simp only [o.callers_append _ hc]

theorem forget_parkIn (hv : o.Precedes v) (phase : Phase) (wake : Wake) :
    (t.forget o).parkIn (o.visit v) phase wake = (t.parkIn v phase wake).forget o :=
  t.forget_park o (c := ⟨v.id, v.request, some v.latch, phase, wake⟩) hv.id

theorem forget_wakeCallers {isMeant : Phase → Bool}
    (past : ∀ c ∈ t.room.callers, c.id ∈ o.ids → isMeant c.phase = false) :
    (t.forget o).wakeCallers isMeant = (t.wakeCallers isMeant).forget o := by
  have woken := o.callers_map t.room.callers
    (fun c => if c.wake = .asleep && isMeant c.phase then { c with wake := .woken } else c)
    (fun c => if c.wake = .asleep && isMeant c.phase then { c with wake := .woken } else c)
    (fun c => by split <;> rfl)
    (fun c => by
      unfold Past.caller
      dsimp only
      split <;> rfl)
  have jobs := o.map_filter_callers t.room.callers
    (fun c => c.wake = .asleep && isMeant c.phase) (fun c => Job.resume c.id)
    (fun c hc hi => by simp [past c hc hi]) (fun _ => rfl) (fun _ => rfl)
  unfold wakeCallers forget Room.forget
  simp only [woken, jobs]

theorem forget_invite {n : Nat} (hn : o.latches ≤ n) (l : Latch × Option CallId) :
    (t.forget o).invite (n - o.latches) l = (t.invite n l).forget o := by
  have latches :
      (t.room.forget o).setLatch (n - o.latches) l.1 = (t.room.setLatch n l.1).forget o :=
    t.room.forget_setLatch o hn l.1
  unfold invite
  cases hl : l.2 with
  | none => simp only [forget, latches]
  | some id =>
    have woken := o.callers_map (t.room.setLatch n l.1).callers
      (fun c => if c.id = id then { c with wake := .woken } else c)
      (fun c => if c.id = id then { c with wake := .woken } else c)
      (fun c => by split <;> rfl)
      (fun c => by by_cases hc : c.id = id <;> simp [hc, Past.caller])
    simp only [forget, latches]
    unfold ready
    simp only [Turn.mk.injEq, and_true]
    unfold Room.forget
    simp only [Room.mk.injEq, true_and]
    exact woken

theorem forget_depart (id : CallId) {next : Turn → Turn}
    (h : ∀ u : Turn, u.room.recorded = t.room.recorded → next (u.forget o) = (next u).forget o) :
    (t.forget o).depart id next = (t.depart id next).forget o := by
  have users : (t.forget o).room.users = t.room.users := rfl
  have latch : (t.forget o).room.latch.isNone = t.room.latch.isNone := by
    change (t.room.latch.map (· - o.latches)).isNone = _
    cases t.room.latch <;> rfl
  unfold depart
  rw [users]
  cases t.room.users with
  | none => rfl
  | some n =>
    simp only [t.forget_recorded o, latch]
    by_cases hn : n ≠ 1
    · rw [if_pos hn, if_pos hn]
      exact h { t with room := { t.room with users := some (n - 1) } } rfl
    · rw [if_neg hn, if_neg hn]
      by_cases hr : t.room.recorded.isSome
      · rw [if_pos hr, if_pos hr]
        exact h { t with room := { t.room with users := none } } rfl
      · rw [if_neg hr, if_neg hr]
        by_cases hl : t.room.latch.isNone
        · rw [if_pos hl, if_pos hl]
          rfl
        · rw [if_neg hl, if_neg hl]
          exact h { t with room := { t.room with users := none, latch := none } } rfl

theorem forget_take (hv : o.Precedes v) : (t.forget o).take (o.visit v) = (t.take v).forget o :=
  congrArg (fun r => ({ t with room := r } : Turn).say (.entered t.room.name v.id t.room.recorded))
    (t.room.forget_changeLatch o hv.latch (·.enter))

theorem forget_release (hv : o.Precedes v) :
    (t.forget o).release (o.visit v) = (t.release v).forget o := by
  have same : ((t.forget o).room.latchAt (o.visit v).latch).release =
      (t.room.latchAt v.latch).release := congrArg _ (t.room.forget_latchAt o hv.latch)
  unfold release
  rw [same]
  exact (t.say (.left t.room.name v.id t.room.recorded)).forget_invite o hv.latch _

theorem recorded_release (v : Visit) : (t.release v).room.recorded = t.room.recorded :=
  recorded_invite _ _ _

theorem forget_leave (hv : o.Precedes v) {next : Turn → Turn}
    (h : ∀ u : Turn, u.room.recorded = t.room.recorded → next (u.forget o) = (next u).forget o) :
    (t.forget o).leave (o.visit v) next = (t.leave v next).forget o := by
  unfold leave
  rw [t.forget_release o hv]
  exact (t.release v).forget_depart o v.id fun u hu => h u (hu.trans (t.recorded_release v))

theorem forget_conclude (hv : o.Precedes v) (e : Ending) :
    (t.forget o).conclude (o.visit v) e = (t.conclude v e).forget o :=
  t.forget_leave o hv fun _ _ => rfl

theorem forget_rouse (c : Child) : (t.forget o).rouse c = (t.rouse c).forget o := by
  unfold rouse
  simp only [forget_setChild]
  split <;> rfl

theorem callers_rouse (c : Child) : (t.rouse c).room.callers = t.room.callers := by
  unfold rouse
  simp only
  split <;> rfl

theorem forget_endChild (drains : o.Drains t.room) (c : Child) (code : Int) :
    (t.forget o).endChild c code = (t.endChild c code).forget o := by
  unfold endChild
  rw [forget_rouse]
  refine (t.rouse (c.finish code)).forget_wakeCallers o fun d hd hi => ?_
  rw [callers_rouse] at hd
  simp [drains.phase hd hi]

theorem forget_closeInput {pid : Pid} (hp : pid ∉ o.pids) :
    (t.forget o).closeInput pid = (t.closeInput pid).forget o := by
  unfold closeInput
  simp only [t.forget_child o hp, forget_setChild]
  split <;> rfl

section Inside

variable (hv : o.Precedes v)

include hv

theorem forget_launch : (t.forget o).launch s (o.visit v) = (t.launch s v).forget o := by
  unfold launch
  cases s.command with
  | error e => exact t.forget_conclude o hv (.failed e)
  | ok argv =>
    simp only [t.forget_parkIn o hv]
    rfl

theorem forget_proceed : (t.forget o).proceed s (o.visit v) = (t.proceed s v).forget o := by
  have request : (o.visit v).request = v.request := rfl
  unfold proceed
  rw [request]
  cases v.request with
  | start dir => exact t.forget_launch o s hv
  | restart dir => exact t.forget_launch o s hv
  | stop => exact t.forget_conclude o hv .done
  | send line => exact t.forget_conclude o hv .done

variable {pid : Pid} (hp : pid ∉ o.pids)

include hp

theorem forget_stopped : (t.forget o).stopped s (o.visit v) pid = (t.stopped s v pid).forget o := by
  unfold stopped
  rw [t.forget_closeInput o hp]
  exact ((t.closeInput pid).say (.stopped t.room.name pid)).forget_proceed o s hv

theorem forget_join : (t.forget o).join s (o.visit v) pid = (t.join s v pid).forget o := by
  unfold join
  simp only [t.forget_child o hp, forget_setChild]
  split
  · exact t.forget_stopped o s hv hp
  · split
    · exact ((t.setChild (t.child pid).cancelRelay.1).ready (.relay pid)).forget_parkIn o hv _ _
    · exact (t.setChild (t.child pid).cancelRelay.1).forget_parkIn o hv _ _

theorem forget_kill (drains : o.Drains t.room) :
    (t.forget o).kill s (o.visit v) pid = (t.kill s v pid).forget o := by
  have ended (x : Happening) (code : Int) :
      (((t.forget o).say x).endChild (t.child pid) code).join s (o.visit v) pid =
        (((t.say x).endChild (t.child pid) code).join s v pid).forget o := by
    refine (congrArg (·.join s (o.visit v) pid)
      ((t.say x).forget_endChild o drains (t.child pid) code)).trans ?_
    exact ((t.say x).endChild (t.child pid) code).forget_join o s hv hp
  unfold kill
  simp only [t.forget_child o hp]
  split
  · exact t.forget_join o s hv hp
  · split
    · exact ended _ _
    · exact ended _ _
    · exact (t.say (.killed pid)).forget_parkIn o hv _ _

end Inside

theorem forget_pop {pid : Pid} (hp : pid ∉ o.pids) :
    (t.forget o).pop pid = (t.pop pid).forget o := by
  unfold pop
  rw [t.forget_child o hp]
  exact congrArg (fun r => { t with room := r })
    (({ t.room with recorded := none } : Room).forget_setChild o _)

section Entered

variable (hv : o.Precedes v) (recorded : ∀ p, t.room.recorded = some p → p ∉ o.pids)
  (drains : o.Drains t.room)

include hv recorded drains

theorem forget_stop (isReplaced : Bool) :
    (t.forget o).stop s (o.visit v) isReplaced = (t.stop s v isReplaced).forget o := by
  unfold stop
  rw [t.forget_recorded o]
  cases hr : t.room.recorded with
  | none => exact t.forget_proceed o s hv
  | some pid =>
    have hp := recorded pid hr
    simp only [t.forget_pop o hp, (t.pop pid).forget_child o hp, (t.pop pid).forget_closeInput o hp]
    split
    · split
      · exact ((t.pop pid).closeInput pid).forget_kill o s hv hp
          (drains.keep (Side.closeInput (t.pop pid) pid).places)
      · exact ({ (t.pop pid).closeInput pid with
          alarms := ((t.pop pid).closeInput pid).alarms ++ [(v.id, s.grace.length)] }
            : Turn).forget_parkIn o hv _ _
    · exact (t.pop pid).forget_kill o s hv hp drains

theorem forget_start : (t.forget o).start s (o.visit v) = (t.start s v).forget o := by
  unfold start
  rw [t.forget_recorded o]
  cases hr : t.room.recorded with
  | none => exact t.forget_launch o s hv
  | some pid =>
    have hp := recorded pid hr
    have session : (t.forget o).room.session pid = t.room.session pid := t.room.forget_session o hp
    simp only [t.forget_child o hp, session]
    split
    · exact (t.say (.alreadyLive t.room.name pid)).forget_conclude o hv _
    · exact t.forget_stop o s hv recorded drains false

end Entered

theorem forget_record (hv : o.Precedes v) (dir : Machine.Path) (argv : List String) {b : Birth}
    (hb : b.pid ∉ o.pids) :
    (t.forget o).record s (o.visit v) dir argv b = (t.record s v dir argv b).forget o := by
  have adopted : (t.forget o).room.adopt dir b = (t.room.adopt dir b).forget o :=
    t.room.forget_adopt o dir hb
  have session : ((t.room.adopt dir b).forget o).session b.pid =
      (t.room.adopt dir b).session b.pid := Room.forget_session o _ hb
  unfold record
  simp only [adopted]
  refine Eq.trans ?_ (forget_conclude o _ hv _)
  exact congrArg (fun w => conclude _ _ (.session w)) session

theorem forget_deliver {id : CallId} (hi : id ∉ o.ids) (line : String)
    (recorded : ∀ p, t.room.recorded = some p → p ∉ o.pids) :
    (t.forget o).deliver id line = (t.deliver id line).forget o := by
  have live : (t.forget o).room.live? = t.room.live? := t.room.forget_live? o recorded
  unfold deliver
  rw [live]
  cases hl : t.room.live? with
  | none => rfl
  | some w =>
    have hp := recorded w.pid (Room.live?_eq_some hl).1
    simp only [t.forget_child o hp]
    split
    · rfl
    · split
      · rfl
      · rfl
      · exact forget_park o ((t.say (.wrote id (t.child w.pid).pid _)).ready _)
          (c := ⟨id, .send line, none, .draining, .asleep⟩) hi

section Coming

variable (hv : o.Precedes v) (recorded : ∀ p, t.room.recorded = some p → p ∉ o.pids)
  (drains : o.Drains t.room)

include hv recorded drains

theorem forget_enter : (t.forget o).enter s (o.visit v) = (t.enter s v).forget o := by
  have request : (o.visit v).request = v.request := rfl
  unfold enter
  simp only [t.forget_take o hv, request]
  cases v.request with
  | start dir => exact (t.take v).forget_start o s hv recorded drains
  | stop => exact (t.take v).forget_stop o s hv recorded drains false
  | restart dir => exact (t.take v).forget_stop o s hv recorded drains true
  | send line =>
    refine (t.take v).forget_leave o hv fun u hu => u.forget_deliver o hv.id line fun p hp => ?_
    exact recorded p (hu ▸ hp)

end Coming

theorem forget_wait (hv : o.Precedes v) : (t.forget o).wait (o.visit v) = (t.wait v).forget o := by
  let u : Turn := { t with room := t.room.setLatch v.latch ((t.room.latchAt v.latch).wait v.id) }
  refine Eq.trans ?_ (u.forget_parkIn o hv .queued .asleep)
  exact congrArg (fun r => ({ t with room := r } : Turn).parkIn (o.visit v) .queued .asleep)
    (t.room.forget_changeLatch o hv.latch (·.wait v.id))

theorem forget_quit (hv : o.Precedes v) : (t.forget o).quit (o.visit v) = (t.quit v).forget o :=
  congrArg (fun r => { t with room := r }) (t.room.forget_changeLatch o hv.latch (·.quit v.id))

section Beginning

variable {id : CallId} (hi : id ∉ o.ids) (numbered : Numbered t.room)
  (latch : o.latches ≤ t.room.latchNumber)
  (recorded : ∀ p, t.room.recorded = some p → p ∉ o.pids) (drains : o.Drains t.room)

include hi numbered latch recorded drains

theorem forget_approach (request : Request) :
    (t.forget o).approach s id request = (t.approach s id request).forget o := by
  have knocked : (t.forget o).room.knock = t.room.knock.forget o :=
    t.room.forget_knock o numbered latch
  have number : (t.forget o).room.latchNumber = t.room.latchNumber - o.latches :=
    t.room.forget_latchNumber o numbered
  have hv : o.Precedes ⟨id, request, t.room.latchNumber⟩ := ⟨hi, latch⟩
  have same : (t.room.knock.forget o).latchAt (t.room.latchNumber - o.latches) =
      t.room.knock.latchAt t.room.latchNumber := t.room.knock.forget_latchAt o latch
  let u : Turn := { t with room := t.room.knock }.say (.approached t.room.name id)
  have coming : (u.forget o).room.latchAt (t.room.latchNumber - o.latches) =
    u.room.latchAt t.room.latchNumber := same
  unfold approach
  simp only [knocked, number]
  change (if ((u.forget o).room.latchAt (t.room.latchNumber - o.latches)).isOpen then _ else _) = _
  rw [coming]
  split
  · exact u.forget_enter o s hv recorded drains
  · exact u.forget_wait o hv

theorem forget_begin (request : Request) :
    (t.forget o).begin s id request = (t.begin s id request).forget o := by
  have comes := t.forget_approach o s hi numbered latch recorded drains request
  unfold begin
  cases request with
  | send line =>
    simp only
    have same : (t.forget o).room.latch = t.room.latch.map (· - o.latches) := rfl
    rw [same]
    cases hl : t.room.latch with
    | none => exact t.forget_deliver o hi line recorded
    | some n =>
      have hn : o.latches ≤ n := by simpa [Room.latchNumber, hl] using latch
      have held : ((t.forget o).room.latchAt (n - o.latches)).isHeld = (t.room.latchAt n).isHeld :=
        congrArg _ (t.room.forget_latchAt o hn)
      simp only [Option.map_some, held]
      split
      · exact comes
      · exact t.forget_deliver o hi line recorded
  | _ => exact comes

end Beginning

/-! Calls that go on. -/

theorem forget_unqueue (hv : o.Precedes v) (recorded : ∀ p, t.room.recorded = some p → p ∉ o.pids)
    (drains : o.Drains t.room) (wake : Wake) :
    (t.forget o).unqueue s (o.visit v) wake = (t.unqueue s v wake).forget o := by
  have enters := (t.quit v).forget_enter o s hv recorded drains
  have same :
      ((t.quit v).forget o).room.latchAt (o.visit v).latch = (t.quit v).room.latchAt v.latch :=
    (t.quit v).room.forget_latchAt o hv.latch
  unfold unqueue
  simp only [t.forget_quit o hv]
  cases wake with
  | interrupted =>
    simp only [same]
    split
    · exact (t.quit v).forget_depart o v.id fun _ _ => rfl
    · refine (congrArg (·.depart v.id (·.finish v.id .abandoned))
        ((t.quit v).forget_invite o hv.latch _)).trans ?_
      exact forget_depart o _ v.id fun _ _ => rfl
  | _ => exact enters

theorem forget_advance (hv : o.Precedes v) (recorded : ∀ p, t.room.recorded = some p → p ∉ o.pids)
    (drains : o.Drains t.room) {phase : Phase} (present : ∀ p, phase.pid? = some p → p ∉ o.pids)
    (wake : Wake) :
    (t.forget o).advance s (o.visit v) phase wake = (t.advance s v phase wake).forget o := by
  have gives (e : Ending) := t.forget_conclude o hv e
  cases phase with
  | queued => exact t.forget_unqueue o s hv recorded drains wake
  | joining pid => exact t.forget_stopped o s hv (present pid rfl)
  | grace pid =>
    have hp := present pid rfl
    cases wake with
    | interrupted => exact gives .abandoned
    | _ =>
      unfold advance
      simp only [t.forget_child o hp]
      split
      · exact t.forget_kill o s hv hp drains
      · exact (t.say (.outlasted t.room.name s.grace.text)).forget_kill o s hv hp drains
  | reaping pid =>
    cases wake with
    | interrupted => exact gives .abandoned
    | _ => exact t.forget_join o s hv (present pid rfl)
  | spawning argv => cases wake <;> exact gives _
  | draining => cases wake <;> exact gives _

theorem forget_unpark (id : CallId) : (t.forget o).unpark id = (t.unpark id).forget o := by
  unfold unpark forget Room.forget
  simp only [o.callers_filter_id]

theorem forget_unpark_past {id : CallId} (hi : id ∈ o.ids) :
    (t.unpark id).room.forget o = t.room.forget o := by
  have same : o.callers (t.room.callers.filter (·.id != id)) = o.callers t.room.callers := by
    unfold Past.callers
    rw [List.filter_filter]
    refine congrArg _ (List.filter_congr fun c _ => ?_)
    by_cases hc : c.id = id
    · simp [hc, hi]
    · simp [hc]
  exact congrArg (fun cs => { t.room.forget o with callers := cs }) same

theorem drains_unpark (drains : o.Drains t.room) (id : CallId) : o.Drains (t.unpark id).room := by
  intro c hc
  rw [places_unpark] at hc
  exact drains c (List.mem_filter.mp hc).1

section GoingOn

variable {id : CallId} (hi : id ∉ o.ids)
  (latches : ∀ c ∈ t.room.callers, ∀ n, c.latch = some n → o.latches ≤ n)

include hi latches

theorem forget_resume (recorded : ∀ p, t.room.recorded = some p → p ∉ o.pids)
    (drains : o.Drains t.room)
    (present : ∀ c ∈ t.room.callers, ∀ p, c.phase.pid? = some p → p ∉ o.pids) :
    (t.forget o).resume s id = (t.resume s id).forget o := by
  have taken := t.forget_unpark o id
  unfold resume
  rw [t.forget_caller? o hi]
  cases hc : t.room.caller? id with
  | none => rfl
  | some c =>
    have mem := Room.mem_of_caller? hc
    have latch : (o.caller c).latch = c.latch.map (· - o.latches) := rfl
    have phase : (o.caller c).phase = c.phase := rfl
    have wake : (o.caller c).wake = c.wake := rfl
    simp only [Option.map_some, latch, phase, wake, taken]
    have goesOn (n : Nat) (hn : c.latch = some n) (p : Phase) (hp : c.phase = p) (w : Wake) :
        ((t.unpark id).forget o).advance s ⟨id, (o.caller c).request, n - o.latches⟩ p w =
          ((t.unpark id).advance s ⟨id, c.request, n⟩ p w).forget o :=
      (t.unpark id).forget_advance o s (v := ⟨id, c.request, n⟩) ⟨hi, latches c mem n hn⟩ recorded
        (t.drains_unpark o drains id) (hp ▸ present c mem) w
    -- Which case of the step applies is the same on both sides.
    cases hn : c.latch <;> cases hp : c.phase <;> cases hw : c.wake <;>
      first | rfl | exact goesOn _ hn _ hp _

theorem forget_launched {outcome : Except SpawnFault Birth}
    (fresh : ∀ b, outcome = .ok b → b.pid ∉ o.pids) :
    (t.forget o).launched s id outcome = (t.launched s id outcome).forget o := by
  have taken := t.forget_unpark o id
  unfold launched
  rw [t.forget_caller? o hi]
  cases hc : t.room.caller? id with
  | none => rfl
  | some c =>
    obtain ⟨i, request, l, phase, wake⟩ := c
    cases l with
    | none => rfl
    | some n =>
      have hv : o.Precedes ⟨id, request, n⟩ := ⟨hi, latches _ (Room.mem_of_caller? hc) n rfl⟩
      cases phase with
      | spawning argv =>
        simp only [Option.map_some, Past.caller, taken]
        cases wake with
        | interrupted => exact (t.unpark id).forget_conclude o hv .abandoned
        | _ =>
          cases outcome with
          | error fault => exact forget_conclude o ((t.unpark id).say _) hv _
          | ok b => exact (t.unpark id).forget_record o s hv _ argv (fresh b rfl)
      | _ => rfl

theorem forget_cancel (placed : ∀ c ∈ t.room.callers, c.phase = .queued → c.latch ≠ none) :
    (t.forget o).cancel id = (t.cancel id).forget o := by
  unfold cancel
  rw [t.forget_caller? o hi]
  cases hc : t.room.caller? id with
  | none => rfl
  | some c =>
    have mem := Room.mem_of_caller? hc
    have told := t.room.forget_setCaller o { c with wake := .interrupted }
    have still := congrArg (fun r => ({ t with room := r } : Turn)) told
    have ready := congrArg (fun r => ({ t with room := r } : Turn).ready (.resume id)) told
    obtain ⟨i, request, l, phase, wake⟩ := c
    cases phase with
    | joining pid => rfl
    | queued =>
      cases wake with
      | asleep =>
        cases l with
        | none => exact absurd rfl (placed _ mem rfl)
        | some n =>
          let told' := t.room.setCaller ⟨i, request, some n, .queued, .interrupted⟩
          refine congrArg (fun r => ({ t with room := r } : Turn).ready (.resume id)) ?_
          refine Eq.trans ?_ (told'.forget_changeLatch o (latches _ mem n rfl) (·.withdraw id))
          exact congrArg (fun r : Room => r.setLatch (n - o.latches)
            ((r.latchAt (n - o.latches)).withdraw id)) told
      | _ => exact still
    | _ =>
      cases wake with
      | asleep => exact ready
      | _ => exact still

end GoingOn

theorem forget_wake {id : CallId} (hi : id ∉ o.ids) :
    (t.forget o).wake id = (t.wake id).forget o := by
  have grace : (t.forget o).room.isInGrace id = t.room.isInGrace id := by
    unfold Room.isInGrace
    rw [t.forget_caller? o hi]
    cases t.room.caller? id with
    | none => rfl
    | some c =>
      obtain ⟨i, request, l, phase, wake⟩ := c
      cases phase <;> cases wake <;> rfl
  unfold Turn.wake
  rw [t.forget_caller? o hi, grace]
  cases hc : t.room.caller? id with
  | none => rfl
  | some c =>
    simp only [Option.map_some]
    split
    · exact congrArg (fun r => ({ t with room := r } : Turn).ready (.resume id))
        (t.room.forget_setCaller o { c with wake := .woken })
    · rfl

theorem forget_drained {id : CallId} (hi : id ∉ o.ids) (isBroken : Bool) :
    (t.forget o).drained id isBroken = (t.drained id isBroken).forget o := by
  have taken := t.forget_unpark o id
  unfold drained
  rw [t.forget_caller? o hi]
  cases hc : t.room.caller? id with
  | none => rfl
  | some c =>
    obtain ⟨i, request, l, phase, wake⟩ := c
    cases request with
    | send line =>
      cases phase with
      | draining =>
        cases wake with
        | asleep =>
          simp only [Option.map_some, Past.caller, taken]
          split <;> rfl
        | _ => rfl
      | _ => rfl
    | _ => rfl

/-! Relays and processes. -/

theorem forget_append (pid : Pid) (text : Terminal.StyledText) :
    (t.forget o).append pid text = (t.append pid text).forget o := by
  unfold append
  split <;> rfl

section Processes

variable {pid : Pid} (hp : pid ∉ o.pids)

include hp

theorem forget_relayPortion (portion : Machine.Bytes) :
    (t.forget o).relayPortion pid portion = (t.relayPortion pid portion).forget o := by
  unfold relayPortion
  simp only [t.forget_child o hp, forget_setChild]
  exact forget_append o ((t.setChild _).say _) pid _

theorem forget_relayPortions (portions : List Machine.Bytes) :
    (t.forget o).relayPortions pid portions =
      ((t.relayPortions pid portions).1.forget o, (t.relayPortions pid portions).2) := by
  induction portions generalizing t with
  | nil => rfl
  | cons portion rest ih =>
    unfold relayPortions
    rw [t.forget_child o hp]
    split
    · rw [t.forget_relayPortion o hp, ih]
    · rfl

theorem forget_relayAll :
    (t.forget o).relayAll pid = ((t.relayAll pid).1.forget o, (t.relayAll pid).2) := by
  unfold relayAll
  simp only [t.forget_child o hp, forget_setChild]
  exact forget_relayPortions o _ hp _

theorem forget_setProgress (p : Progress) :
    (t.forget o).setProgress pid p = (t.setProgress pid p).forget o := by
  unfold setProgress
  simp only [t.forget_child o hp, forget_setChild]

theorem forget_endRelay (drains : o.Drains t.room) :
    (t.forget o).endRelay pid = (t.endRelay pid).forget o := by
  let u := t.setProgress pid .done
  have told := o.map_filter_callers u.room.callers
    (fun c => c.phase = .grace pid && c.wake = .asleep) (fun c => Job.notice c.id)
    (fun c hc hi => by simp [drains.phase hc hi]) (fun _ => rfl) (fun _ => rfl)
  unfold endRelay
  simp only [t.forget_setProgress o hp]
  refine Eq.trans ?_ (forget_wakeCallers o _ fun c hc hi => ?_)
  · exact congrArg (fun js => wakeCallers { u.forget o with jobs := u.jobs ++ js } _) told
  · simp [drains.phase hc hi]

theorem forget_relayEnd (drains : o.Drains t.room) (code : Int) :
    (t.forget o).relayEnd pid code = (t.relayEnd pid code).forget o :=
  (t.say (.ended t.room.name pid code)).forget_endRelay o hp drains

theorem forget_relayOn (drains : o.Drains t.room) :
    (t.forget o).relayOn pid = (t.relayOn pid).forget o := by
  have all := t.forget_relayAll o hp
  have after : o.Drains (t.relayAll pid).1.room := drains.keep (Side.relayAll t pid).places
  unfold relayOn
  rw [all]
  generalize t.relayAll pid = read at after
  obtain ⟨u, isSound⟩ := read
  simp only [u.forget_child o hp, forget_setChild, forget_append]
  split
  · exact u.forget_endRelay o hp after
  · split
    · have shown : o.Drains ((u.setChild { u.child pid with
          relay := (u.child pid).relay.tail.2 }).append pid (u.child pid).relay.tail.1).room :=
        after.keep (Side.append (u.setChild _) _ _).places
      generalize (u.setChild { u.child pid with
        relay := (u.child pid).relay.tail.2 }).append pid (u.child pid).relay.tail.1 = w at shown
      cases (u.child pid).code with
      | some code => exact w.forget_relayEnd o hp shown code
      | none => exact w.forget_setProgress o hp .awaiting
    · exact u.forget_setProgress o hp .reading

theorem forget_relay (drains : o.Drains t.room) :
    (t.forget o).relay pid = (t.relay pid).forget o := by
  have ends := t.forget_endRelay o hp drains
  have goesOn := t.forget_relayOn o hp drains
  unfold relay
  simp only [t.forget_child o hp]
  cases (t.child pid).relay.progress with
  | reading => rfl
  | awaiting => rfl
  | done => rfl
  | unstarted =>
    simp only
    split
    · exact ends
    · exact goesOn
  | readable =>
    simp only
    split
    · exact ends
    · exact goesOn
  | released =>
    cases (t.child pid).relay.isCancelled with
    | true => exact ends
    | false =>
      cases (t.child pid).code with
      | none => exact ends
      | some code => exact t.forget_relayEnd o hp drains code

theorem forget_exit (drains : o.Drains t.room) (code : Int) :
    (t.forget o).exit pid code = (t.exit pid code).forget o := by
  unfold exit
  simp only [t.forget_child o hp]
  split
  · rfl
  · exact (t.say (.exited pid code)).forget_endChild o drains _ code

theorem forget_output (portion : Machine.Bytes) :
    (t.forget o).output pid portion = (t.output pid portion).forget o := by
  have same : (t.forget o).room.child? pid = t.room.child? pid := t.room.forget_child? o hp
  unfold output
  simp only [t.forget_child o hp, same]
  split
  · exact forget_rouse o (t.say _) _
  · exact t.forget_rouse o _

theorem forget_closeOutput : (t.forget o).closeOutput pid = (t.closeOutput pid).forget o := by
  unfold closeOutput
  rw [t.forget_child o hp]
  exact t.forget_rouse o _

end Processes

theorem forget_clear : (t.forget o).clear = t.clear.forget o := by
  have same : (t.forget o).room.display = t.room.display := rfl
  unfold clear
  rw [same]
  cases t.room.display <;> rfl

theorem forget_openDisplay : (t.forget o).openDisplay = t.openDisplay.forget o := rfl

end Turn

end ToolHost.Session

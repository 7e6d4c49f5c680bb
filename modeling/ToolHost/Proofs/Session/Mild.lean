import Mathlib
import ToolHost.Proofs.Session.Processes

/-!
# Mild steps

Most of what is done in a room leaves the input of every process as it is, tells no relay to end
and makes nobody wait for a process that was not waited for. Such steps are mild; what relays do,
what processes do by themselves and what calls do at the latch are.
-/
namespace ToolHost

/-- Whether a happening is neither of those by which a process is written to, stopped or heard. -/
def Happening.isMild : Happening → Bool
  | .wrote .. | .inputClosed _ | .killed _ | .uttered .. => false
  | _ => true

namespace Session

/-- The process that a call has taken the record of, and waits for. -/
def Phase.ward? : Phase → Option Pid
  | .grace pid | .reaping pid | .joining pid => some pid
  | .queued | .spawning _ | .draining => none

/-- A process at a later time, with its input as it was, and its relay not told to end. -/
structure Child.Spared (c d : Child) : Prop where
  traits : d.traits = c.traits
  isStopped : d.isStopped = c.isStopped
  inputClosed : d.inputClosed = c.inputClosed
  isCancelled : d.relay.isCancelled = c.relay.isCancelled
  outputClosed : c.outputClosed → d.outputClosed

theorem Child.Spared.refl (c : Child) : c.Spared c := ⟨rfl, rfl, rfl, rfl, id⟩

theorem Child.Spared.trans {a b c : Child} (h : a.Spared b) (k : b.Spared c) : a.Spared c :=
  ⟨k.traits.trans h.traits, k.isStopped.trans h.isStopped, k.inputClosed.trans h.inputClosed,
    k.isCancelled.trans h.isCancelled, k.outputClosed ∘ h.outputClosed⟩

theorem Child.spared_rouse (c : Child) : c.Spared c.rouse.1 := by
  unfold rouse
  split <;> (try split) <;> exact ⟨rfl, rfl, rfl, rfl, id⟩

/-- A call waits as before, or for a process that there is, and not in its grace period. -/
def Caller.IsSteady (r : Room) (c : Caller) : Prop :=
  c ∈ r.callers ∨ (∀ pid, c.phase ≠ .grace pid) ∧ ∀ pid, c.phase.ward? = some pid →
    pid ∈ r.pids ∨ ∃ b ∈ r.callers, b.phase.ward? = some pid

/-- No call is in its grace period. -/
def Room.NoGrace (r : Room) : Prop := ∀ c ∈ r.callers, ∀ pid, c.phase ≠ .grace pid

structure Mild (t u : Turn) : Prop where
  pids : u.room.pids = t.room.pids
  recorded : u.room.recorded = t.room.recorded
  spared : ∀ pid, (t.room.child pid).Spared (u.room.child pid)
  callers : ∀ c ∈ u.room.callers, c.IsSteady t.room
  alarms : u.alarms = t.alarms
  trace : ∃ xs, u.trace = xs ++ t.trace ∧ ∀ x ∈ xs, x.isMild

namespace Mild

variable {t u w : Turn}

theorem of_children (children : u.room.children = t.room.children)
    (recorded : u.room.recorded = t.room.recorded)
    (callers : ∀ c ∈ u.room.callers, c.IsSteady t.room) (alarms : u.alarms = t.alarms)
    (trace : ∃ xs, u.trace = xs ++ t.trace ∧ ∀ x ∈ xs, x.isMild) : Mild t u where
  pids := Room.pids_congr children
  recorded := recorded
  spared pid := by
    rw [Room.child_congr children]
    exact .refl _
  callers := callers
  alarms := alarms
  trace := trace

/-- No process and no call is concerned, but for the latch. -/
theorem of_room (children : u.room.children = t.room.children)
    (recorded : u.room.recorded = t.room.recorded) (callers : u.room.callers = t.room.callers)
    (alarms : u.alarms = t.alarms) (trace : u.trace = t.trace) : Mild t u :=
  of_children children recorded (fun _ hc => .inl (callers ▸ hc)) alarms ⟨[], trace, nofun⟩

theorem refl (t : Turn) : Mild t t := of_room rfl rfl rfl rfl rfl

theorem trans (h : Mild t u) (k : Mild u w) : Mild t w where
  pids := k.pids.trans h.pids
  recorded := k.recorded.trans h.recorded
  spared pid := (h.spared pid).trans (k.spared pid)
  callers c hc := by
    rcases k.callers c hc with hc | ⟨hg, hw⟩
    · exact h.callers c hc
    · refine .inr ⟨hg, fun pid hp => ?_⟩
      rcases hw pid hp with hm | ⟨b, hb, hp⟩
      · exact .inl (h.pids ▸ hm)
      · rcases h.callers b hb with hb | ⟨-, hv⟩
        · exact .inr ⟨b, hb, hp⟩
        · exact hv pid hp
  alarms := k.alarms.trans h.alarms
  trace := by
    obtain ⟨xs, hx, mx⟩ := h.trace
    obtain ⟨ys, hy, my⟩ := k.trace
    refine ⟨ys ++ xs, by rw [hy, hx, List.append_assoc], fun x hm => ?_⟩
    rcases List.mem_append.mp hm with hm | hm
    · exact my x hm
    · exact mx x hm

theorem say (t : Turn) {x : Happening} (h : x.isMild) : Mild t (t.say x) :=
  of_children rfl rfl (fun _ hc => .inl hc) rfl ⟨[x], rfl, by simpa using h⟩

theorem ready (t : Turn) (j : Job) : Mild t (t.ready j) := of_room rfl rfl rfl rfl rfl

theorem finish (t : Turn) (id : CallId) (e : Ending) : Mild t (t.finish id e) :=
  of_room rfl rfl rfl rfl rfl

/-- A call waits, but not in its grace period. -/
theorem park (t : Turn) {c : Caller} (grace : ∀ pid, c.phase ≠ .grace pid)
    (ward : ∀ pid, c.phase.ward? = some pid → pid ∈ t.room.pids) : Mild t (t.park c) := by
  refine of_children rfl rfl (fun d hd => ?_) rfl ⟨[], rfl, nofun⟩
  rcases List.mem_append.mp hd with hd | hd
  · exact .inl hd
  · rw [List.mem_singleton.mp hd]
    exact .inr ⟨grace, fun pid hp => .inl (ward pid hp)⟩

theorem unpark (t : Turn) (id : CallId) : Mild t (t.unpark id) :=
  of_children rfl rfl (fun _ hc => .inl (List.mem_filter.mp hc).1) rfl ⟨[], rfl, nofun⟩

theorem wakeCallers (t : Turn) {isMeant : Phase → Bool} (h : ∀ pid, isMeant (.grace pid) = false) :
    Mild t (t.wakeCallers isMeant) := by
  refine of_children rfl rfl (fun c hc => ?_) rfl ⟨[], rfl, nofun⟩
  obtain ⟨b, hb, rfl⟩ := List.mem_map.mp hc
  split
  · next hw =>
    rw [Bool.and_eq_true] at hw
    have other (pid : Pid) : b.phase ≠ .grace pid := by
      rintro hp
      rw [hp, h pid] at hw
      cases hw.2
    exact .inr ⟨other, fun pid hp => .inr ⟨b, hb, hp⟩⟩
  · exact .inl hb

/-- The next call in the queue is let in. -/
theorem invite (t : Turn) (n : Nat) (l : Latch × Option CallId) (alone : t.room.NoGrace) :
    Mild t (t.invite n l) := by
  refine of_children (t.children_invite n l) (t.recorded_invite n l) (fun c hc => ?_) ?_
    ⟨[], t.trace_invite n l, nofun⟩
  · rw [t.callers_invite] at hc
    cases hl : l.2 with
    | none =>
      rw [hl] at hc
      exact .inl hc
    | some id =>
      rw [hl] at hc
      obtain ⟨b, hb, rfl⟩ := List.mem_map.mp hc
      split
      · exact .inr ⟨alone b hb, fun pid hp => .inr ⟨b, hb, hp⟩⟩
      · exact .inl hb
  · unfold Turn.invite
    cases l.2 <;> rfl

/-! Processes. -/

theorem setChild (t : Turn) (pid : Pid) {c : Child} (hc : c.pid = pid)
    (h : (t.child pid).Spared c) : Mild t (t.setChild c) where
  pids := t.room.pids_setChild c
  recorded := rfl
  spared p := by
    change Child.Spared _ ((t.room.setChild c).child p)
    rw [Room.child_setChild]
    split
    · next hp =>
      rw [hp.1, hc]
      exact h
    · exact .refl _
  callers _ hd := .inl hd
  alarms := rfl
  trace := ⟨[], rfl, nofun⟩

theorem rouse (t : Turn) (pid : Pid) {c : Child} (hc : c.pid = pid)
    (h : (t.child pid).Spared c) : Mild t (t.rouse c) := by
  have hset : Mild t (t.setChild c.rouse.1) :=
    setChild t pid (c.rouse_pid.trans hc) (h.trans c.spared_rouse)
  unfold Turn.rouse
  simp only
  split
  · exact hset.trans (ready _ _)
  · exact hset

theorem endChild (t : Turn) (pid : Pid) {c : Child} (hc : c.pid = pid)
    (h : (t.child pid).Spared c) (code : Int) : Mild t (t.endChild c code) := by
  have finished : (t.child pid).Spared (c.finish code) :=
    h.trans ⟨rfl, rfl, rfl, rfl, fun closed => by simp [Child.finish, closed]⟩
  exact (rouse t pid (c := c.finish code) hc finished).trans (wakeCallers _ fun _ => by simp)

/-! Relays. -/

theorem append (t : Turn) (pid : Pid) (text : Terminal.StyledText) :
    Mild t (t.append pid text) := by
  unfold Turn.append
  split
  · exact refl t
  · exact of_children rfl rfl (fun _ hc => .inl hc) rfl ⟨[_], rfl, by simp [Happening.isMild]⟩

/-- A relay is where it was told to be, whether it is to end or not. -/
theorem setRelay (t : Turn) (pid : Pid) {r : Relay}
    (h : r.isCancelled = (t.child pid).relay.isCancelled) :
    Mild t (t.setChild { t.child pid with relay := r }) :=
  setChild t pid (c := { t.child pid with relay := r }) (t.room.child_pid pid) ⟨rfl, rfl, rfl, h, id⟩

theorem relayPortion (t : Turn) (pid : Pid) (portion : Machine.Bytes) :
    Mild t (t.relayPortion pid portion) := by
  have read : Mild t (t.setChild { t.child pid with
      relay := ((t.child pid).relay.feed portion).2 }) := setRelay t pid rfl
  exact (read.trans (say _ rfl)).trans (append _ pid _)

theorem relayPortions (pid : Pid) (ps : List Machine.Bytes) (t : Turn) :
    Mild t (t.relayPortions pid ps).1 := by
  induction ps generalizing t with
  | nil => exact refl t
  | cons p ps ih =>
    unfold Turn.relayPortions
    split
    · exact (relayPortion t pid p).trans (ih _)
    · exact say t rfl

theorem relayAll (t : Turn) (pid : Pid) : Mild t (t.relayAll pid).1 := by
  have taken : Mild t (t.setChild { t.child pid with output := [] }) :=
    setChild t pid (c := { t.child pid with output := [] }) (t.room.child_pid pid)
      ⟨rfl, rfl, rfl, rfl, id⟩
  exact taken.trans (relayPortions pid _ _)

theorem setProgress (t : Turn) (pid : Pid) (p : Progress) : Mild t (t.setProgress pid p) :=
  setRelay t pid rfl

theorem endRelay (t : Turn) (pid : Pid) : Mild t (t.endRelay pid) := by
  have told (u : Turn) (jobs : List Job) : Mild u { u with jobs } := of_room rfl rfl rfl rfl rfl
  unfold Turn.endRelay
  exact ((setProgress t pid .done).trans (told _ _)).trans (wakeCallers _ fun _ => by simp)

theorem relayEnd (t : Turn) (pid : Pid) (code : Int) : Mild t (t.relayEnd pid code) :=
  (say t rfl).trans (endRelay _ pid)

theorem relayOn (t : Turn) (pid : Pid) : Mild t (t.relayOn pid) := by
  have all := relayAll t pid
  unfold Turn.relayOn
  generalize t.relayAll pid = out at *
  obtain ⟨u, isSound⟩ := out
  simp only
  split
  · exact all.trans (endRelay u pid)
  · split
    · have shown := (all.trans (setRelay u pid (r := (u.child pid).relay.tail.2) rfl)).trans
        (append _ pid (u.child pid).relay.tail.1)
      split
      · exact shown.trans (relayEnd _ pid _)
      · exact shown.trans (setProgress _ pid _)
    · exact all.trans (setProgress u pid _)

theorem relay (t : Turn) (pid : Pid) : Mild t (t.relay pid) := by
  unfold Turn.relay
  simp only
  split
  · exact refl t
  · exact refl t
  · exact refl t
  · split
    · exact endRelay t pid
    · exact relayOn t pid
  · split
    · exact endRelay t pid
    · exact relayOn t pid
  · split
    · exact relayEnd t pid _
    · exact endRelay t pid

/-! What processes do by themselves, and the display. -/

theorem exit (t : Turn) (pid : Pid) (code : Int) : Mild t (t.exit pid code) := by
  unfold Turn.exit
  simp only
  split
  · exact refl t
  · have said : Mild t (t.say (.exited pid code)) := say t rfl
    exact said.trans (endChild (t.say _) pid (t.room.child_pid pid) (.refl _) code)

theorem closeOutput (t : Turn) (pid : Pid) : Mild t (t.closeOutput pid) :=
  rouse t pid (t.room.child_pid pid) ⟨rfl, rfl, rfl, rfl, fun _ => rfl⟩

theorem clear (t : Turn) : Mild t t.clear := by
  unfold Turn.clear
  split
  · exact refl t
  · exact of_children rfl rfl (fun _ hc => .inl hc) rfl ⟨[_], rfl, by simp [Happening.isMild]⟩

theorem openDisplay (t : Turn) : Mild t t.openDisplay := of_room rfl rfl rfl rfl rfl

end Mild

theorem Room.NoGrace.mild {t u : Turn} (h : t.room.NoGrace) (m : Mild t u) : u.room.NoGrace := by
  intro c hc
  rcases m.callers c hc with hc | ⟨other, -⟩
  · exact h c hc
  · exact other

end Session

end ToolHost

import Mathlib
import ToolHost.Proofs.Session.Lookup

/-!
# What is read and shown

Most steps leave alone what processes have written and what relays have read and shown. The few
that do not are told apart here: a process writes, a relay goes on, the display is cleared.
-/
namespace ToolHost

/-- Whether a happening is about what is written, read or shown. -/
def Happening.isOutput : Happening → Bool
  | .uttered .. | .produced .. | .appended .. | .cleared .. => true
  | _ => false

namespace Session

/-- Whether the relay may still read. -/
def Relay.isReading (r : Relay) : Bool :=
  match r.progress with
  | .unstarted | .reading | .readable => true
  | .awaiting | .released | .done => false

/-- The relay as far as it reads: where it stands in the output, apart from whether it goes on. -/
def Relay.ear (r : Relay) : Relay := { decoder := r.decoder, filter := r.filter }

/-- A process at a later time, of which nothing has been written or read meanwhile. -/
structure Child.Keeps (c d : Child) : Prop where
  output : d.output = c.output
  ear : d.relay.ear = c.relay.ear
  isReading : d.relay.isReading = c.relay.isReading
  isDone : d.relay.isDone = c.relay.isDone
  hasOutput : d.traits.hasOutput = c.traits.hasOutput
  cancelled : c.relay.isCancelled → d.relay.isCancelled
  closed : c.outputClosed → d.outputClosed
  ended : c.hasEnded → d.hasEnded
  /-- A relay is let go on behind the end of the output because the process has ended, or to
  end. -/
  released : d.relay.progress = .released →
    c.relay.progress = .released ∨ d.hasEnded ∨ d.relay.isCancelled

theorem Child.Keeps.refl (c : Child) : c.Keeps c := ⟨rfl, rfl, rfl, rfl, rfl, id, id, id, .inl⟩

theorem Child.Keeps.trans {a b c : Child} (h : a.Keeps b) (k : b.Keeps c) : a.Keeps c where
  output := k.output.trans h.output
  ear := k.ear.trans h.ear
  isReading := k.isReading.trans h.isReading
  isDone := k.isDone.trans h.isDone
  hasOutput := k.hasOutput.trans h.hasOutput
  cancelled := k.cancelled ∘ h.cancelled
  closed := k.closed ∘ h.closed
  ended := k.ended ∘ h.ended
  released hc := by
    rcases k.released hc with hb | hb
    · rcases h.released hb with ha | ha | ha
      · exact .inl ha
      · exact .inr (.inl (k.ended ha))
      · exact .inr (.inr (k.cancelled ha))
    · exact .inr hb

theorem Child.rouse_pid (c : Child) : c.rouse.1.pid = c.pid := by
  unfold rouse
  split <;> (try split) <;> rfl

theorem Child.write_pid (c : Child) (portion : Machine.Bytes) : (c.write portion).pid = c.pid := by
  unfold write
  split <;> rfl

theorem Child.keeps_rouse (c : Child) : c.Keeps c.rouse.1 := by
  unfold rouse
  split
  · next h =>
    split
    · exact ⟨rfl, rfl, by simp [Relay.isReading, h], by simp [Relay.isDone, h], rfl, id, id, id,
        nofun⟩
    · exact .refl c
  · next h =>
    split
    · next ended =>
      exact ⟨rfl, rfl, by simp [Relay.isReading, h], by simp [Relay.isDone, h], rfl, id, id, id,
        fun _ => .inr (.inl ended)⟩
    · exact .refl c
  · exact .refl c

theorem Child.keeps_cancelRelay (c : Child) : c.Keeps c.cancelRelay.1 := by
  unfold cancelRelay
  split
  · next h =>
    exact ⟨rfl, rfl, by simp [Relay.isReading, h], by simp [Relay.isDone, h], rfl,
      fun _ => rfl, id, id, fun _ => .inr (.inr rfl)⟩
  · next h =>
    exact ⟨rfl, rfl, by simp [Relay.isReading, h], by simp [Relay.isDone, h], rfl,
      fun _ => rfl, id, id, fun _ => .inr (.inr rfl)⟩
  · exact ⟨rfl, rfl, rfl, rfl, rfl, fun _ => rfl, id, id, fun _ => .inr (.inr rfl)⟩

theorem Child.keeps_finish (c : Child) (code : Int) : c.Keeps (c.finish code) :=
  ⟨rfl, rfl, rfl, rfl, rfl, id, fun h => by simp [Child.finish, h], fun _ => rfl, .inl⟩

/-- Nothing is written, read or shown. -/
structure Quiet (t u : Turn) : Prop where
  pids : u.room.pids = t.room.pids
  keeps : ∀ pid, (t.room.child pid).Keeps (u.room.child pid)
  display : u.room.display.getD [] = t.room.display.getD []
  trace : ∃ xs, u.trace = xs ++ t.trace ∧ ∀ x ∈ xs, x.isOutput = false

/-- A step that is quiet, or one of those that are not. -/
inductive Murmur : Turn → Turn → Prop
  | quiet {t u} (h : Quiet t u) : Murmur t u
  | output (t pid portion) : Murmur t (t.output pid portion)
  | relay (t pid) : Murmur t (t.relay pid)
  | clear (t) : Murmur t t.clear

/-- What is written, read and shown, step by step. -/
def Told : Turn → Turn → Prop := Relation.ReflTransGen Murmur

theorem Told.trans {t u w : Turn} (h : Told t u) (k : Told u w) : Told t w :=
  Relation.ReflTransGen.trans h k

theorem Murmur.told {t u : Turn} (h : Murmur t u) : Told t u := .single h

namespace Quiet

variable {t u w : Turn}

theorem told (h : Quiet t u) : Told t u := (Murmur.quiet h).told

theorem of_room (children : u.room.children = t.room.children)
    (display : u.room.display.getD [] = t.room.display.getD [])
    (trace : ∃ xs, u.trace = xs ++ t.trace ∧ ∀ x ∈ xs, x.isOutput = false) : Quiet t u where
  pids := Room.pids_congr children
  keeps pid := by
    rw [Room.child_congr children]
    exact .refl _
  display := display
  trace := trace

theorem refl (t : Turn) : Quiet t t := of_room rfl rfl ⟨[], rfl, by simp⟩

theorem trans (h : Quiet t u) (k : Quiet u w) : Quiet t w where
  pids := k.pids.trans h.pids
  keeps pid := (h.keeps pid).trans (k.keeps pid)
  display := k.display.trans h.display
  trace := by
    obtain ⟨xs, hx, ax⟩ := h.trace
    obtain ⟨ys, hy, ay⟩ := k.trace
    refine ⟨ys ++ xs, by rw [hy, hx, List.append_assoc], ?_⟩
    intro x hm
    rcases List.mem_append.mp hm with hm | hm
    · exact ay x hm
    · exact ax x hm

theorem say (t : Turn) {x : Happening} (h : x.isOutput = false) : Quiet t (t.say x) :=
  of_room rfl rfl ⟨[x], rfl, by simpa using h⟩

theorem ready (t : Turn) (j : Job) : Quiet t (t.ready j) := of_room rfl rfl ⟨[], rfl, by simp⟩

theorem wakeCallers (t : Turn) (p : Phase → Bool) : Quiet t (t.wakeCallers p) :=
  of_room rfl rfl ⟨[], rfl, by simp⟩

theorem setChild (t : Turn) (pid : Pid) {c : Child} (hc : c.pid = pid)
    (h : (t.child pid).Keeps c) : Quiet t (t.setChild c) where
  pids := t.room.pids_setChild c
  keeps p := by
    change Child.Keeps _ ((t.room.setChild c).child p)
    rw [Room.child_setChild]
    split
    · next hp =>
      rw [hp.1, hc]
      exact h
    · exact .refl _
  display := rfl
  trace := ⟨[], rfl, by simp⟩

theorem rouse (t : Turn) (pid : Pid) {c : Child} (hc : c.pid = pid)
    (h : (t.child pid).Keeps c) : Quiet t (t.rouse c) := by
  have hset : Quiet t (t.setChild c.rouse.1) :=
    setChild t pid (c.rouse_pid.trans hc) (h.trans c.keeps_rouse)
  unfold Turn.rouse
  simp only
  split
  · exact hset.trans (ready _ _)
  · exact hset

theorem endChild (t : Turn) (pid : Pid) {c : Child} (hc : c.pid = pid)
    (h : (t.child pid).Keeps c) (code : Int) : Quiet t (t.endChild c code) :=
  (rouse t pid (c := c.finish code) hc (h.trans (c.keeps_finish code))).trans (wakeCallers _ _)

theorem closeInput (t : Turn) (pid : Pid) : Quiet t (t.closeInput pid) := by
  unfold Turn.closeInput
  simp only
  split
  · have hset : Quiet t (t.setChild { t.child pid with inputClosed := true }) :=
      setChild t pid (c := { t.child pid with inputClosed := true }) (t.room.child_pid pid)
        ⟨rfl, rfl, rfl, rfl, rfl, id, id, id, .inl⟩
    exact (hset.trans (say _ rfl)).trans (ready _ _)
  · exact refl t

theorem cancelRelay (t : Turn) (pid : Pid) :
    Quiet t (t.setChild (t.child pid).cancelRelay.1) := by
  refine setChild t pid ?_ (t.child pid).keeps_cancelRelay
  have hpid : (t.child pid).cancelRelay.1.pid = (t.child pid).pid := by
    unfold Child.cancelRelay
    split <;> rfl
  exact hpid.trans (t.room.child_pid pid)

theorem exit (t : Turn) (pid : Pid) (code : Int) : Quiet t (t.exit pid code) := by
  unfold Turn.exit
  simp only
  split
  · exact refl t
  · have hsay : Quiet t (t.say (.exited pid code)) := say t rfl
    exact hsay.trans (endChild (t.say (.exited pid code)) pid (t.room.child_pid pid) (.refl _) code)

theorem closeOutput (t : Turn) (pid : Pid) : Quiet t (t.closeOutput pid) :=
  rouse t pid (t.room.child_pid pid) ⟨rfl, rfl, rfl, rfl, rfl, id, fun _ => rfl, id, .inl⟩

theorem openDisplay (t : Turn) : Quiet t t.openDisplay :=
  of_room rfl rfl ⟨[], rfl, by simp⟩

end Quiet

end Session

end ToolHost

import Mathlib
import ToolHost.Proofs.Session.Relaying

/-!
# Why a relay ends

A relay that has come to the end of the output waits for the process to end. So one that has ended
while its process runs was told to end, or there was no output to read, or it met something that it
cannot read.
-/
namespace ToolHost.Session

open Machine (Bytes)

/-- The relay of a process of which some portions were read ends, or is about to, only when the
process has ended, unless it was told to, or had no output or one that cannot be read. -/
def Child.Outlasted (c : Child) (heard : List Bytes) : Prop :=
  c.relay.progress = .released ∨ c.relay.isDone → c.hasEnded ∨ c.relay.isCancelled ∨
    c.traits.hasOutput = false ∨ ({} : Relay).canReadAll heard = false

/-- What can be read as a whole can be read in part. -/
theorem Relay.canReadAll_of_append {r : Relay} {ps qs : List Bytes}
    (h : r.canReadAll (ps ++ qs)) : r.canReadAll ps := by
  induction ps generalizing r with
  | nil => rfl
  | cons p ps ih =>
    rw [List.cons_append, canReadAll, Bool.and_eq_true] at h
    rw [canReadAll, h.1, ih h.2]
    rfl

namespace Child.Outlasted

variable {c d : Child} {hs : List Bytes}

theorem keeps (h : c.Outlasted hs) (k : c.Keeps d) : d.Outlasted hs := by
  have carry (hc : c.relay.progress = .released ∨ c.relay.isDone) : d.hasEnded ∨
      d.relay.isCancelled ∨ d.traits.hasOutput = false ∨ ({} : Relay).canReadAll hs = false := by
    rw [k.hasOutput]
    exact (h hc).imp k.ended (.imp_left k.cancelled)
  rintro (hd | hd)
  · rcases k.released hd with hc | hc | hc
    · exact carry (.inl hc)
    · exact .inl hc
    · exact .inr (.inl hc)
  · exact carry (.inr (k.isDone ▸ hd))

theorem of_ended (h : c.hasEnded) : c.Outlasted hs := fun _ => .inl h

/-- The relay goes on. -/
theorem of_progress (released : c.relay.progress ≠ .released) (done : c.relay.progress ≠ .done) :
    c.Outlasted hs := by
  rintro (h | h)
  · exact absurd h released
  · exact absurd (by simpa [Relay.isDone] using h) done

/-- The relay ends for a reason that is known. -/
theorem ends {pid : Pid} {t : Turn} (mem : pid ∈ t.room.pids)
    (reason : (t.child pid).hasEnded ∨ (t.child pid).relay.isCancelled ∨
      (t.child pid).traits.hasOutput = false ∨ ({} : Relay).canReadAll hs = false) :
    ((t.endRelay pid).child pid).Outlasted hs := by
  rw [Turn.child_endRelay mem]
  exact fun _ => reason

end Child.Outlasted

section Relay

variable {pid : Pid} {past : List Happening} {t : Turn}

theorem outlasted_relayOn (mem : pid ∈ t.room.pids) {isOver : Bool}
    (h : Relayed (t.child pid) (uttered pid (t.trace ++ past)) (heard pid (t.trace ++ past))
      (displayed pid (t.trace ++ past)) isOver) (reading : (t.child pid).relay.isReading) :
    ((t.relayOn pid).child pid).Outlasted (heard pid ((t.relayOn pid).trace ++ past)) := by
  cases h.readsOn mem reading with
  | breaks u mem broken eq =>
    rw [eq]
    exact .ends mem (.inr (.inr (.inr broken.unreadable)))
  | ends u hearing closed code ended eq =>
    rw [eq]
    refine .of_ended ?_
    rw [Turn.child_relayEnd (Turn.mem_showTail hearing.mem), Turn.child_showTail hearing.mem]
    simp [Child.hasEnded, ended]
  | awaits u hearing closed eq =>
    rw [eq]
    refine .of_progress ?_ ?_ <;>
      rw [Turn.child_setProgress (Turn.mem_showTail hearing.mem)] <;> simp
  | pauses u hearing eq =>
    rw [eq]
    refine .of_progress ?_ ?_ <;> rw [Turn.child_setProgress hearing.mem] <;> simp

theorem outlasted_relay (mem : pid ∈ t.room.pids) {isOver : Bool}
    (h : Relayed (t.child pid) (uttered pid (t.trace ++ past)) (heard pid (t.trace ++ past))
      (displayed pid (t.trace ++ past)) isOver)
    (k : (t.child pid).Outlasted (heard pid (t.trace ++ past))) :
    ((t.relay pid).child pid).Outlasted (heard pid ((t.relay pid).trace ++ past)) := by
  unfold Turn.relay
  simp only
  split
  · exact k
  · exact k
  · exact k
  · next hp =>
    split
    · next reason =>
      refine .ends mem (.inr ?_)
      have reason : (t.child pid).relay.isCancelled ∨ (t.child pid).traits.hasOutput = false := by
        simpa using reason
      exact reason.imp_right .inl
    · exact outlasted_relayOn mem h (by simp [Relay.isReading, hp])
  · next hp =>
    split
    · next cancelled => exact .ends mem (.inr (.inl cancelled))
    · exact outlasted_relayOn mem h (by simp [Relay.isReading, hp])
  · next hp =>
    split
    · next code _ hcode =>
      have told : heard pid ((t.relayEnd pid code).trace ++ past) =
          heard pid (t.trace ++ past) := by
        change recount _ (.ended t.room.name pid code :: (t.trace ++ past)) = _
        rw [recount_cons]
        exact List.append_nil _
      rw [told]
      refine .of_ended ?_
      rw [Turn.child_relayEnd mem]
      simp [Child.hasEnded, hcode]
    · exact .ends mem (k (.inl hp))

end Relay

/-- All relays of a room end for a reason. -/
structure Accounted (r : Room) (xs : List Happening) : Prop where
  aired : Aired r xs
  outlasted : ∀ p ∈ r.pids, (r.child p).Outlasted (heard p xs)

namespace Accounted

variable {t u : Turn} {past : List Happening}

/-- Nothing is read. -/
theorem quiet (h : Accounted t.room (t.trace ++ past)) (q : Quiet t u) :
    Accounted u.room (u.trace ++ past) := by
  refine ⟨q.aired h.aired, fun p hp => ?_⟩
  obtain ⟨xs, hx, hq⟩ := q.trace
  rw [hx, List.append_assoc, ((Mute.of_quiet hq p).told _).2.1]
  exact (h.outlasted p (q.pids ▸ hp)).keeps (q.keeps p)

theorem relay (h : Accounted t.room (t.trace ++ past)) (pid : Pid) :
    Accounted (t.relay pid).room ((t.relay pid).trace ++ past) := by
  have only := Only.relay t pid
  refine ⟨only.aired h.aired (airs_relay (h.aired.airs pid)), fun p hp => ?_⟩
  rw [only.pids] at hp
  by_cases same : p = pid
  · subst same
    obtain ⟨isOver, relayed⟩ := (h.aired.airs p).1 hp
    exact outlasted_relay hp relayed (h.outlasted p hp)
  · obtain ⟨xs, hx, mute⟩ := only.trace
    rw [hx, List.append_assoc, ((mute p same).told _).2.1, only.children p same]
    exact h.outlasted p hp

theorem output (h : Accounted t.room (t.trace ++ past)) (pid : Pid) (portion : Bytes) :
    Accounted (t.output pid portion).room ((t.output pid portion).trace ++ past) := by
  have told (p : Pid) : heard p ((t.output pid portion).trace ++ past) =
      heard p (t.trace ++ past) := by
    unfold Turn.output
    simp only
    rw [Turn.trace_rouse]
    split
    · exact (recount_cons _ _).trans (List.append_nil _)
    · rfl
  refine ⟨aired_output h.aired pid portion, fun p hp => ?_⟩
  have side := Side.output t pid portion
  rw [told]
  rw [side.pids] at hp
  have before := h.outlasted p hp
  have hpid : ((t.child pid).write portion).pid = pid :=
    (Child.write_pid _ _).trans (t.room.child_pid pid)
  by_cases same : p = pid
  · subst same
    have written : ((t.child p).write portion).Outlasted (heard p (t.trace ++ past)) := by
      unfold Child.write
      split <;> exact before
    have roused := written.keeps (Child.keeps_rouse _)
    have eq : (t.output p portion).child p = ((t.child p).write portion).rouse.1 := by
      unfold Turn.output
      simp only
      split
      · exact Turn.child_rouse (t := t.say _) hpid hp
      · exact Turn.child_rouse hpid hp
    change ((t.output p portion).child p).Outlasted _
    rw [eq]
    exact roused
  · have still : (t.output pid portion).room.child p = t.room.child p := by
      unfold Turn.output
      simp only
      split
      · exact (Only.rouse (t.say _) hpid).children p same
      · exact (Only.rouse t hpid).children p same
    rw [still]
    exact before

theorem clear (h : Accounted t.room (t.trace ++ past)) :
    Accounted t.clear.room (t.clear.trace ++ past) := by
  refine ⟨aired_clear h.aired, ?_⟩
  unfold Turn.clear
  split
  · exact h.outlasted
  · have told (p : Pid) : heard p (.cleared t.room.name :: (t.trace ++ past)) =
        heard p (t.trace ++ past) := (recount_cons _ _).trans (List.append_nil _)
    exact fun p hp => (told p).symm ▸ h.outlasted p hp

theorem told (h : Accounted t.room (t.trace ++ past)) (k : Told t u) :
    Accounted u.room (u.trace ++ past) := by
  induction k with
  | refl => exact h
  | tail _ step ih =>
    cases step with
    | quiet q => exact ih.quiet q
    | output pid portion => exact ih.output pid portion
    | relay pid => exact ih.relay pid
    | clear => exact ih.clear

/-- The relay of a new process has not begun. -/
theorem adopt {r : Room} {xs : List Happening} (h : Accounted r xs) (dir : Machine.Path) {b : Birth}
    (fresh : b.pid ∉ r.pids) : Accounted (r.adopt dir b) xs := by
  refine ⟨h.aired.adopt dir fresh, fun p hp => ?_⟩
  rw [Room.child_adopt fresh]
  split
  · exact .of_progress nofun nofun
  · next ne =>
    rw [Room.pids_adopt, List.mem_append, List.mem_singleton] at hp
    exact h.outlasted p (hp.resolve_right ne)

end Accounted

theorem Course.accounted {name : SessionName} {ds : List Deed} {r : Room} (c : Course name ds r) :
    Accounted r (log ds) :=
  c.tells ⟨Course.start.aired, fun _ hp => nomatch hp⟩ (fun told h => h.told told)
    fun dir _ fresh h => h.adopt dir fresh

/-! ## What cannot be read -/

theorem flatten_portions (octets : Bytes) : (portions octets).flatten = octets := by
  fun_induction portions octets with
  | case1 octets none => simpa using none.symm
  | case2 octets some ih => rw [List.flatten_cons, ih, List.take_append_drop]

section Unreadable

variable {pid : Pid} {t : Turn}

/-- A relay that reads portions leaves the process alone, and finds out whether it can read them. -/
theorem Turn.relayPortions_eq (mem : pid ∈ t.room.pids) (ps : List Bytes) :
    (t.relayPortions pid ps).2 = (t.child pid).relay.canReadAll ps ∧
      ∃ relay, (t.relayPortions pid ps).1.child pid = { t.child pid with relay } := by
  induction ps generalizing t with
  | nil => exact ⟨rfl, _, rfl⟩
  | cons p ps ih =>
    have read : (t.relayPortion pid p).child pid =
        { t.child pid with relay := ((t.child pid).relay.feed p).2 } :=
      (Side.child_append _ pid pid _).trans (Turn.child_setChild (t.room.child_pid pid) mem)
    unfold relayPortions
    rw [Relay.canReadAll]
    by_cases can : (t.child pid).relay.canRead p
    · obtain ⟨all, relay, child⟩ := ih ((Only.relayPortion t pid p).pids.symm ▸ mem)
      rw [if_pos can, can, Bool.true_and, all, child, read]
      exact ⟨rfl, relay, rfl⟩
    · rw [if_neg can, Bool.eq_false_iff.mpr can]
      exact ⟨rfl, _, rfl⟩

/-- A relay that meets what it cannot read ends there, while the process goes on. -/
theorem Turn.child_relay_of_unreadable (mem : pid ∈ t.room.pids)
    (ready : (t.child pid).relay.progress = .unstarted ∨ (t.child pid).relay.progress = .readable)
    (heeded : (t.child pid).relay.isCancelled = false) (output : (t.child pid).traits.hasOutput)
    (unreadable : (t.child pid).relay.canReadAll ((t.child pid).output.flatMap portions) = false) :
    ∃ relay, relay.isDone ∧
      (t.relay pid).child pid = { t.child pid with output := [], relay } := by
  have emptied : (t.setChild { t.child pid with output := [] }).child pid =
      { t.child pid with output := [] } := Turn.child_setChild (t.room.child_pid pid) mem
  have there : pid ∈ (t.setChild { t.child pid with output := [] }).room.pids :=
    (t.room.pids_setChild _).symm ▸ mem
  obtain ⟨sound, relay, child⟩ := Turn.relayPortions_eq there ((t.child pid).output.flatMap portions)
  rw [emptied] at sound child
  change (t.relayAll pid).2 = _ at sound
  change (t.relayAll pid).1.child pid = _ at child
  have ends : (t.relayOn pid).child pid =
      { (t.relayAll pid).1.child pid with
        relay := { ((t.relayAll pid).1.child pid).relay with progress := .done } } := by
    rw [Turn.relayOn_eq, if_pos (sound.trans unreadable)]
    exact Turn.child_endRelay ((Side.relayAll t pid).pids.symm ▸ mem)
  have reads : t.relay pid = t.relayOn pid := by
    rcases ready with unstarted | readable
    · simp [Turn.relay, unstarted, heeded, output]
    · simp [Turn.relay, readable, heeded]
  rw [reads, ends, child]
  exact ⟨_, rfl, rfl⟩

end Unreadable

end ToolHost.Session

import Mathlib
import ToolHost.Proofs.Session.Order

/-!
# Waiting for a relay to end

A call that waits for the relay of a stopped process to end goes on only when it has ended. Nothing
else wakes it: it is not in the queue of the latch, and told to give up it waits all the same.
-/
namespace ToolHost.Session

/-- A call that waits inside the latch is counted there. -/
theorem Placed.isInside {f : Focus} {r : Room} (p : Placed f r) {c : Caller} (mem : c ∈ r.callers)
    {s : Stage} (stage : c.phase.stage? = some s) : c.isInside := by
  have hq := Phase.ne_queued_of_stage stage
  have hl : c.latch ≠ none := fun e => Phase.ne_draining_of_stage stage ((p.suits mem).latch.mp e)
  simp [Caller.isInside, hq, Option.isSome_iff_ne_none, hl]

/-- While nobody waits inside, no call is at a stage. -/
theorem Placed.no_stage {f : Focus} {r : Room} (p : Placed f r) (none : r.insiders = 0)
    {c : Caller} (mem : c ∈ r.callers) : c.phase.stage? = .none := by
  by_contra hs
  obtain ⟨s, hs⟩ := Option.ne_none_iff_exists'.mp hs
  have inside : c.place.isInside = true := p.isInside (c := c) mem hs
  rw [Room.insiders, List.countP_eq_zero] at none
  exact none _ (Room.place_mem mem) inside

namespace Room

theorem relays_congr {r q : Room} (h : q.children = r.children) (pid : Pid) :
    q.Relays pid ↔ r.Relays pid := by
  unfold Relays child?
  rw [h]

/-- A process is taken from the record; its relay goes on as before. -/
theorem relays_pop (t : Turn) (pid p : Pid) : (t.pop pid).room.Relays p ↔ t.room.Relays p := by
  have relay : ((t.pop pid).room.child p).relay = (t.room.child p).relay := by
    rw [Turn.child_pop]
    split <;> rfl
  rw [relays_iff, relays_iff, Turn.pids_pop, relay]

namespace JoinsEnded

variable {f : Focus} {r q : Room}

/-- No relay begins, and of the calls only some are left as they were. -/
theorem keep (h : r.JoinsEnded) (relays : ∀ pid, q.Relays pid → r.Relays pid)
    (callers : ∀ c ∈ q.callers, c ∈ r.callers) : q.JoinsEnded :=
  fun c hc pid phase awake hr => h c (callers c hc) pid phase awake (relays pid hr)

/-- Nothing is done to the processes. -/
theorem stay (h : r.JoinsEnded) (children : q.children = r.children)
    (callers : ∀ c ∈ q.callers, c ∈ r.callers) : q.JoinsEnded :=
  h.keep (fun pid => (relays_congr children pid).mp) callers

/-- A call begins to wait, asleep or for something else. -/
theorem add (h : r.JoinsEnded) {c : Caller} (callers : q.callers = r.callers ++ [c])
    (children : q.children = r.children)
    (wake : c.wake = .asleep ∨ ∀ pid, c.phase ≠ .joining pid) : q.JoinsEnded := by
  intro d hd pid phase awake hr
  rw [callers] at hd
  rcases List.mem_append.mp hd with hd | hd
  · exact h d hd pid phase awake ((relays_congr children pid).mp hr)
  · rw [List.mem_singleton.mp hd] at phase awake
    rcases wake with e | e
    · exact awake e
    · exact e pid phase

/-- Nobody waits inside. -/
theorem of_insiders (p : Placed f r) (none : r.insiders = 0) : r.JoinsEnded := by
  intro c hc pid phase
  have hs := p.no_stage none hc
  rw [phase] at hs
  cases hs

theorem drift {t u : Turn} (h : t.room.JoinsEnded) (d : Drift t u) : u.room.JoinsEnded := by
  intro c hc pid phase awake hr
  obtain ⟨b, hb, e⟩ := d.exists_mem hc
  rcases e with rfl | ⟨_, rfl, hm⟩
  · exact h c hb pid phase awake (d.relays hr)
  · have hp : b.phase = .joining pid := phase
    rw [hp] at hm
    exact hm hr

end JoinsEnded

end Room

theorem Move.joinsEnded {f g : Focus} {t u : Turn} (m : Move f t g u) (p : Placed f t.room)
    (k : Counted f t.room) (o : Orderly f t.room) (h : t.room.JoinsEnded) : u.room.JoinsEnded := by
  have alone {v : Visit} {s : Stage} (hf : f = .inside v s) (places : u.room.places = t.room.places)
      (pu : Placed g u.room) : u.room.JoinsEnded := by
    subst hf
    refine .of_insiders pu ?_
    rw [Room.insiders_congr places]
    exact (Latch.Orderly.isHeld_of_inside o).2
  have sound (v : Visit) (e : Option Ending) (hf : f = .behind v e) : ¬ t.room.Lacks := by
    subst hf
    exact k.sound
  have pu : Placed g u.room := m.placed p sound
  cases m with
  | drift hd _ => exact h.drift hd
  | queue ho => exact h.add rfl rfl (.inl rfl)
  | letIn mem latch phase wake => exact h.stay rfl fun _ hc => (List.mem_filter.mp hc).1
  | retreat mem latch phase wake eq =>
    rename_i w c n
    obtain ⟨_, ho⟩ := o.quit k p.nodup mem latch phase (q := w.room)
      (by rw [eq]; rfl) (by rw [eq]; rfl) (by rw [eq]; rfl)
    have hn : w.room.latch = some n := by
      rw [eq]
      exact k.same c.place (Room.place_mem mem) n latch
    rw [← Room.gate_eq hn] at pu ⊢
    split
    · subst eq
      exact h.stay rfl fun _ hc => (List.mem_filter.mp hc).1
    · rename_i hf
      rw [if_neg hf] at pu
      refine .of_insiders pu ?_
      have hi := ho.inside
      rw [if_neg hf] at hi
      rw [Room.insiders_congr (Turn.places_invite _ _ _)]
      exact hi
  | resume mem latch goesOn awake => exact h.stay rfl fun _ hc => (List.mem_filter.mp hc).1
  | pop line recorded => exact h.keep (fun p => (Room.relays_pop t _ p).mp) fun _ => id
  | park stage asleep =>
    rename_i v s phase wake
    refine h.add (c := ⟨v.id, v.request, some v.latch, phase, wake⟩) rfl rfl ?_
    rcases asleep with ⟨e, _⟩ | ⟨_, rfl, _⟩
    · exact .inl e
    · refine .inr ?_
      rintro pid rfl
      cases stage
  | adopt dir b fresh launches => exact alone rfl rfl pu
  | release => exact alone rfl (Turn.places_release _ _) pu
  | stumble lacks => exact absurd lacks (sound _ _ rfl)
  | block => exact h.add rfl rfl (.inl rfl)
  | drain mem phase he => exact h.stay rfl fun _ hc => (List.mem_filter.mp hc).1
  | forsake mem latch => exact h.stay rfl fun _ hc => (List.mem_filter.mp hc).1
  | _ => exact h.stay rfl fun _ => id

/-- A call that waits for a relay to end cannot be made to give up. -/
theorem cancel_joinsEnded {t : Turn} (id : CallId) (h : t.room.JoinsEnded) : (t.cancel id).room.JoinsEnded := by
  unfold Turn.cancel
  split
  · exact h
  · rename_i c hc
    have told (other : ∀ pid, c.phase ≠ .joining pid) :
        (t.room.setCaller { c with wake := .interrupted }).JoinsEnded := by
      intro d hd pid phase awake hr
      obtain ⟨b, hb, rfl⟩ := List.mem_map.mp hd
      split at phase
      · exact other pid phase
      · rename_i hne
        rw [if_neg hne] at awake
        exact h b hb pid phase awake hr
    split
    · exact h
    · rename_i hp _
      exact told (by simp [hp])
    · rename_i hj _
      exact told hj
    · rename_i hj _ _
      exact told hj

end ToolHost.Session

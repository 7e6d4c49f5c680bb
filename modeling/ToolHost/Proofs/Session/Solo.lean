import Mathlib
import ToolHost.Proofs.Session.Closing

/-!
# One call at a time

Where every call of a room has come to its end, nobody waits there and nobody holds the latch. A
line that begins then is written at once to the process that is recorded, or refused at once; and
as long as only lines begin, the same process stays recorded.
-/
namespace ToolHost.Session

/-! ## A line on its own -/

/-- A line is written to the process that it goes to. -/
theorem Turn.writes_deliver {t : Turn} {pid : Pid} (h : t.room.Targets pid) (id : CallId)
    (line : String) : writes (t.deliver id line).trace = ⟨id, pid, pieceOf line⟩ :: writes t.trace := by
  have live : t.room.live? = some (t.room.session pid) := h.live?
  have input : (t.child (t.room.session pid).pid).traits.hasInput = true := h.input
  have number : (t.child (t.room.session pid).pid).pid = pid := t.room.child_pid pid
  unfold deliver
  simp only [live, input, number, Bool.not_true, Bool.false_eq_true, if_false]
  split <;> rfl

/-- A line that goes to no process is refused. -/
theorem Turn.deliver_of_idle {t : Turn} (h : ∀ pid, ¬ t.room.Targets pid) (id : CallId)
    (line : String) :
    t.deliver id line = t.finish id (.failed (.failure (.noActiveSession t.room.name))) := by
  unfold deliver
  cases live : t.room.live? with
  | none => rfl
  | some v =>
    obtain ⟨recorded, lives⟩ := Room.live?_eq_some live
    have deaf : (t.child v.pid).traits.hasInput = false := by
      by_contra input
      exact h v.pid ⟨recorded, lives, eq_true_of_ne_false input⟩
    simp only [deaf, Bool.not_false, if_true]

/-! ## Who may end -/

/-- A call that ends has begun with that, or it waited. -/
theorem Sound.began_of_returned {r : Room} (h : Sound .idle r) {s : Setting} (sane : s.Sane)
    {a : Action} (fits : a.Fits r) {id : CallId} {e : Ending}
    (returned : (r.act s a).returned = some (id, e)) :
    id ∈ r.ids ∨ ∃ q, a.call? = some (id, q) := by
  have subject := h.subject_of_returned sane fits returned
  have waits {i : CallId} (mem : ∃ c ∈ r.callers, c.id = i) : i ∈ r.ids :=
    List.mem_map.mpr mem
  cases a with
  | begin i request =>
    cases subject
    exact .inr ⟨request, rfl⟩
  | resume i =>
    cases subject
    change (Turn.resume { room := r } s id).returned = _ at returned
    unfold Turn.resume at returned
    cases hc : r.caller? id with
    | none =>
      simp only [hc] at returned
      cases returned
    | some c => exact .inl (waits ⟨c, Room.mem_of_caller? hc, Room.id_of_caller? hc⟩)
  | launched i outcome =>
    cases subject
    obtain ⟨c, mem, own, -⟩ := Room.of_launched_returned returned
    exact .inl (waits ⟨c, mem, own⟩)
  | drained i isBroken =>
    cases subject
    change (Turn.drained { room := r } id isBroken).returned = _ at returned
    unfold Turn.drained at returned
    cases hc : r.caller? id with
    | none =>
      simp only [hc] at returned
      cases returned
    | some c => exact .inl (waits ⟨c, Room.mem_of_caller? hc, Room.id_of_caller? hc⟩)
  | _ => cases subject

/-! ## The record -/

/-- A step of a line leaves the record as it is. -/
theorem Move.keeps_record {f g : Focus} {t u : Turn} (m : Move f t g u) (s : Sound f t.room)
    (lines : ∀ q, f.call? = some q → q.2.isLine) : u.room.recorded = t.room.recorded := by
  cases m with
  | drift hd _ => exact hd.recorded
  | retreat mem latch phase wake eq =>
    subst eq
    split
    · rfl
    · exact Turn.recorded_invite _ _ _
  | @pop _ v _ other recorded =>
    have line : v.request.isLine = true := lines _ rfl
    rw [other] at line
    cases line
  | @adopt _ v dir b fresh launches =>
    have line : v.request.isLine = true := lines _ rfl
    cases hq : v.request <;> simp [hq, Request.isLine, Request.launches] at line launches
  | release => exact Turn.recorded_invite _ _ _
  | stumble lacks => exact absurd lacks s.counted.sound
  | _ => rfl

namespace Course

variable {name : SessionName} {later earlier ds : List Deed} {d : Deed} {r q : Room}

/-- A call ends only once. -/
theorem not_ended_before (c : Course name (later ++ d :: earlier) r) {id : CallId} {e : Ending}
    (returned : d.turn.returned = some (id, e)) : ¬ Ended id earlier := by
  rintro ⟨d', hd', e', before⟩
  obtain ⟨k, sane, call, fits⟩ := c.back
  obtain ⟨out, p, hp⟩ := k.gone hd' before
  rcases k.sound.began_of_returned sane fits returned with waits | ⟨p', begins⟩
  · exact out waits
  · exact call _ begins (List.mem_map.mpr ⟨_, hp, rfl⟩)

/-- Where all calls have come to their end nobody waits. -/
theorem callers_of_ended (c : Course name ds r) (ended : ∀ p ∈ calls ds, Ended p.1 ds) :
    r.callers = [] := by
  rw [List.eq_nil_iff_forall_not_mem]
  intro x hx
  obtain ⟨d, hd, e, returned⟩ := ended _ (c.has_call hx)
  exact (c.gone hd returned).1 (List.mem_map_of_mem hx)

/-- Where nobody waits nobody holds the latch. -/
theorem free_of_callers (c : Course name ds r) (none : r.callers = []) :
    r.gate.isHeld = false := by
  by_contra held
  obtain ⟨x, mem, -⟩ := c.sound.exists_insider (by simpa using held)
  rw [none] at mem
  cases mem

/-- From a moment on at which nobody waits, lines leave the record as it is. -/
theorem recorded_eq (c : Course name ds r) (k : Course name (later ++ ds) q)
    (none : r.callers = []) (lines : ∀ p ∈ calls later, p.2.isLine) : q.recorded = r.recorded := by
  let L (p : CallId × Request) : Prop := p.2.isLine
  have start : Houses name L .idle r := by
    refine ⟨c.name_eq, (fun _ e => nomatch e), ?_⟩
    simp [Room.places, none]
  have both : Houses name L .idle q ∧ q.recorded = r.recorded := by
    refine c.preserved (P := fun x => Houses name L .idle x ∧ x.recorded = r.recorded) k ?_
      ⟨start, rfl⟩
    intro x s a sound sane fits known h
    have begins : Houses name L a.focus x := h.1.begins fun p hp => lines p (known p hp)
    obtain ⟨f, -, hf, same⟩ := sound.act_yields
      (P := fun f t => Houses name L f t.room ∧ t.room.recorded = r.recorded) sane fits
      (fun m hm hk => ⟨m.houses hm hk.1, (m.keeps_record hm hk.1.focus).trans hk.2⟩)
      (fun hs hk => ⟨hk.1.keep hs.name hs.places rfl, hs.recorded.trans hk.2⟩) ⟨begins, h.2⟩
    exact ⟨hf.alone, same⟩
  exact both.2

/-- A line goes to the recorded process, as long as that runs and takes input. -/
theorem targets_iff (c : Course name ds r) {pid : Pid} (recorded : r.recorded = some pid) :
    r.Targets pid ↔ (r.child pid).hasEnded = false ∧ (r.child pid).traits.hasInput = true := by
  have unstopped := c.recent.unstopped pid recorded
  constructor
  · intro h
    have live := h.live
    rw [Child.isLive, Bool.and_eq_true] at live
    exact ⟨by simpa using live.2, h.input⟩
  · rintro ⟨runs, input⟩
    exact ⟨recorded, by rw [Child.isLive, unstopped, runs]; rfl, input⟩

end Course

end ToolHost.Session

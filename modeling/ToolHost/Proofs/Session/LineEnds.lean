import Mathlib
import ToolHost.Proofs.Session.Solo

/-!
# How a line ends

Where nobody waits, a line that begins is delivered or refused for want of a live session, at once
or when it has been taken; it ends in no other way. A call that has come to its end writes nothing
any more.
-/
namespace ToolHost.Session

/-- A line ends when it is delivered, or refused. -/
def Ending.OfLine (name : SessionName) (e : Ending) : Prop :=
  e = .done ∨ e = .failed (.failure (.noActiveSession name))

/-- Whoever waits does so for a line to be taken. -/
def Room.Drains (r : Room) : Prop := ∀ c ∈ r.callers, c.phase = .draining ∧ c.wake = .asleep

/-- Nobody is under way but lines that wait to be taken; what has ended is one of those. -/
structure Draining (name : SessionName) (f : Focus) (t : Turn) : Prop where
  name_eq : t.room.name = name
  gone : f = .idle ∧ t.returned = none ∨ f.isClosed
  drains : t.room.Drains
  ended : ∀ id e, t.returned = some (id, e) → e.OfLine name

theorem Move.draining {name : SessionName} {f g : Focus} {t u : Turn} (m : Move f t g u)
    (s : Sound f t.room) (h : Draining name f t) : Draining name g u := by
  have left {id : CallId} : ∀ c ∈ (t.unpark id).room.callers,
      c.phase = .draining ∧ c.wake = .asleep :=
    fun c hc => h.drains c (List.mem_filter.mp hc).1
  cases m with
  | drift hd still =>
    refine ⟨hd.name.trans h.name_eq, hd.returned ▸ h.gone, fun c hc => ?_, hd.returned ▸ h.ended⟩
    obtain ⟨b, hb, rfl | ⟨-, -, wakes⟩⟩ := hd.exists_mem hc
    · exact h.drains _ hb
    · rw [(h.drains b hb).1] at wakes
      cases wakes
  | letIn mem latch phase wake => cases phase.symm.trans (h.drains _ mem).1
  | retreat mem latch phase wake eq => cases phase.symm.trans (h.drains _ mem).1
  | resume mem latch goesOn awake =>
    cases latch.symm.trans ((s.placed.suits mem).latch.mpr (h.drains _ mem).1)
  | drain mem phase ends =>
    refine ⟨h.name_eq, .inr rfl, left, fun id e he => ?_⟩
    cases he
    exact h.name_eq ▸ ends
  | forsake mem latch awake => exact absurd (h.drains _ mem).2 awake
  | _ => rcases h.gone with ⟨e, -⟩ | e <;> cases e

/-- A line that begins where nobody waits is taken, or else it waits for that. -/
theorem Turn.draining_deliver {r : Room} (none : r.callers = []) (id : CallId) (line : String) :
    (deliver { room := r } id line).room.Drains ∧
      ∀ i e, (deliver { room := r } id line).returned = some (i, e) → e.OfLine r.name := by
  have drains : r.Drains := by
    intro c hc
    rw [none] at hc
    cases hc
  have finished (t : Turn) (same : t.room = r) {e : Ending} (ends : e.OfLine r.name) :
      (t.finish id e).room.Drains ∧
        ∀ i x, (t.finish id e).returned = some (i, x) → x.OfLine r.name := by
    refine ⟨same.symm ▸ drains, fun i x hx => ?_⟩
    cases hx
    exact ends
  unfold deliver
  simp only
  split
  · exact finished _ rfl (.inr rfl)
  · split
    · exact finished _ rfl (.inr rfl)
    · split
      · exact finished _ rfl (.inl rfl)
      · exact finished _ rfl (.inr rfl)
      · refine ⟨fun c hc => ?_, fun _ _ h => nomatch h⟩
        change c ∈ r.callers ++ [_] at hc
        rw [none] at hc
        obtain rfl := List.mem_singleton.mp hc
        exact ⟨rfl, rfl⟩

namespace Course

variable {name : SessionName} {later ds : List Deed} {d : Deed} {r q : Room}

/-- From a moment on at which only lines wait, and as long as nobody begins or gives up, only lines
end. -/
theorem drains (c : Course name ds r) (k : Course name (later ++ ds) q) (calm : Calm (later ++ ds))
    (none : calls later = []) (start : r.Drains) :
    q.Drains ∧ ∀ d ∈ later, ∀ id e, d.turn.returned = some (id, e) → e.OfLine name := by
  induction later generalizing q with
  | nil =>
    rw [c.room_unique k]
    exact ⟨start, fun _ h => nomatch h⟩
  | cons d later ih =>
    rw [calls_cons, List.append_eq_nil_iff] at none
    cases k with
    | act k s sane a call birth =>
      rename_i p
      obtain ⟨before, ends⟩ := ih k calm.tail none.2
      have idle : a.focus = .idle := by
        cases a with
        | begin id request => cases none.1
        | _ => rfl
      have begins : Draining name a.focus { room := p } :=
        ⟨k.name_eq, .inl ⟨idle, rfl⟩, before, fun _ _ h => nomatch h⟩
      obtain ⟨f, -, after⟩ := k.act_calm (k.tidy calm.tail) sane call birth
        (calm _ List.mem_cons_self) (fun m hs _ h => m.draining hs h) begins
      refine ⟨after.drains, fun x hx => ?_⟩
      rcases List.mem_cons.mp hx with rfl | hx
      · exact after.ended
      · exact ends x hx

/-- A call that has come to its end writes nothing. -/
theorem not_ended_of_writes (c : Course name (later ++ d :: ds) r) {w : Write}
    (hw : w ∈ writes d.turn.trace) : ¬ Ended w.call ds := by
  rintro ⟨x, hx, e, returned⟩
  obtain ⟨k, sane, call, fits⟩ := c.back
  obtain ⟨out, p, hp⟩ := k.gone hx returned
  obtain ⟨-, -, line, begins | ⟨y, hy, -, same⟩, -⟩ := k.sound.written sane fits hw
  · exact call _ begins (List.mem_map.mpr ⟨_, hp, rfl⟩)
  · exact out (List.mem_map.mpr ⟨y, (Room.mem_waiting.mp hy).1, (Prod.mk.inj same).1⟩)

end Course

end ToolHost.Session

import Mathlib
import ToolHost.Proofs.Session.Places

/-!
# Counting the calls at a latch

The room counts the calls at its latch, waiting and inside, and keeps the latch as long as it
counts any or a session is recorded. The count is right after every small step, all calls at the
latch are at the same one, and what a call gives up when it leaves is always there.
-/
namespace ToolHost.Session

/-- The visit of the call that a step is about, as long as it counts at the latch. -/
def Focus.visit? : Focus → Option Visit
  | .before v | .inside v _ | .behind v _ => some v
  | _ => none

def Focus.visits (f : Focus) : Nat := if f.visit?.isSome then 1 else 0

/-- How many calls wait at the latch or inside. -/
def Room.atLatch (r : Room) : Nat := r.places.countP (·.latch.isSome)

/-- A count of calls as it is kept: no call is not counted. -/
def tally (n : Nat) : Option Nat := if n = 0 then none else some n

theorem getD_tally (n : Nat) : (tally n).getD 0 = n := by
  unfold tally
  split <;> simp_all

theorem isSome_tally (n : Nat) : (tally n).isSome ↔ n ≠ 0 := by
  unfold tally
  split <;> simp_all

/-- Latches are numbered in the order in which they were made. -/
structure Numbered (r : Room) : Prop where
  numbers : r.latches.map (·.1) = List.range r.latches.length
  inRange : ∀ n, r.latch = some n → n < r.latches.length

theorem Numbered.latch_mem {r : Room} (h : Numbered r) {n : Nat} (hn : r.latch = some n) :
    n ∈ r.latches.map (·.1) := by
  rw [h.numbers]
  exact List.mem_range.mpr (h.inRange n hn)

/-- No latch is made. -/
theorem Numbered.keep {r q : Room} (h : Numbered r)
    (latches : q.latches.map (·.1) = r.latches.map (·.1))
    (latch : q.latch = r.latch ∨ q.latch = none) : Numbered q := by
  have hl : q.latches.length = r.latches.length := by simpa using congrArg List.length latches
  refine ⟨by rw [latches, hl, h.numbers], ?_⟩
  intro n hn
  rw [hl]
  rcases latch with e | e
  · exact h.inRange n (e ▸ hn)
  · rw [e] at hn
    cases hn

structure Counted (f : Focus) (r : Room) : Prop where
  numbered : Numbered r
  same : ∀ c ∈ r.places, ∀ n, c.latch = some n → r.latch = some n
  visit : ∀ v, f.visit? = some v → r.latch = some v.latch
  users : r.users = tally (r.atLatch + f.visits)
  kept : r.latch.isSome ↔ r.users.isSome ∨ r.recorded.isSome

namespace Counted

variable {f g : Focus} {r q : Room}

theorem isSome_users {v : Visit} (h : Counted f r) (hv : f.visit? = some v) : r.users.isSome := by
  rw [h.users, isSome_tally]
  simp [Focus.visits, hv]

/-- What a call gives up when it leaves is there. -/
theorem sound {v : Visit} {e : Option Ending} (h : Counted (.behind v e) r) : ¬ r.Lacks := by
  have hl := h.visit v rfl
  rintro (hu | ⟨_, _, hn⟩)
  · exact Option.isSome_iff_ne_none.mp (h.isSome_users rfl) hu
  · rw [hl] at hn
    cases hn

/-- The last call that leaves leaves nobody behind. -/
theorem last {v : Visit} {e : Option Ending} (h : Counted (.behind v e) r)
    (users : r.users = some 1) : r.atLatch = 0 := by
  have hu := h.users
  rw [users, tally] at hu
  simp only [Focus.visits, Focus.visit?, Option.isSome_some, if_true] at hu
  split at hu
  · cases hu
  · have := Option.some.inj hu
    omega

/-- Nothing changes that is counted. A call at the latch may change the record. -/
theorem keep (h : Counted f r) (latches : q.latches.map (·.1) = r.latches.map (·.1))
    (latch : q.latch = r.latch) (users : q.users = r.users) (places : q.places = r.places)
    (recorded : q.recorded = r.recorded ∨ ∃ v, f.visit? = some v)
    (visit : g.visit? = f.visit?) : Counted g q where
  numbered := h.numbered.keep latches (.inl latch)
  same := by rw [places, latch]; exact h.same
  visit := by rw [visit, latch]; exact h.visit
  users := by
    rw [users, Room.atLatch, places, Focus.visits, visit]
    exact h.users
  kept := by
    rw [latch, users]
    rcases recorded with e | ⟨v, hv⟩
    · rw [e]
      exact h.kept
    · have hu := h.isSome_users hv
      have hl := h.visit v hv
      simp [hu, hl]

/-- A call that waits goes on, at the latch if it waited there. -/
theorem remove (h : Counted .idle r) (nodup : r.ids.Nodup) {c : Caller} (mem : c ∈ r.callers)
    (latches : q.latches.map (·.1) = r.latches.map (·.1)) (latch : q.latch = r.latch)
    (users : q.users = r.users) (places : q.places = r.places.filter (·.id != c.id))
    (recorded : q.recorded = r.recorded) (visit : g.visit?.map (·.latch) = c.latch) :
    Counted g q where
  numbered := h.numbered.keep latches (.inl latch)
  same d hd m hm := by
    rw [places] at hd
    rw [latch]
    exact h.same d (List.mem_filter.mp hd).1 m hm
  visit v hv := by
    rw [latch]
    refine h.same c.place (Room.place_mem mem) v.latch ?_
    rw [Caller.place_latch, ← visit, hv]
    rfl
  users := by
    have hg : g.visits = if c.latch.isSome then 1 else 0 := by
      rw [← visit, Option.isSome_map]
      rfl
    have hp : (r.callers.filter (·.id != c.id)).map Caller.place = q.places := by
      rw [places, Room.places, List.filter_map]
      rfl
    have hc := ((Room.perm_of_mem nodup mem).map Caller.place).countP_eq (·.latch.isSome)
    rw [List.map_cons, List.countP_cons, hp] at hc
    rw [users, h.users, hg]
    congr 1
  kept := by rw [latch, users, recorded]; exact h.kept

/-- The call under way waits. -/
theorem park (h : Counted f r) {c : Caller} (latches : q.latches.map (·.1) = r.latches.map (·.1))
    (latch : q.latch = r.latch) (users : q.users = r.users) (places : q.places = r.places ++ [c])
    (recorded : q.recorded = r.recorded) (visit : f.visit?.map (·.latch) = c.latch)
    (gone : g.visit? = none) : Counted g q where
  numbered := h.numbered.keep latches (.inl latch)
  same d hd m hm := by
    rw [places] at hd
    rw [latch]
    rcases List.mem_append.mp hd with hd | hd
    · exact h.same d hd m hm
    · rw [List.mem_singleton.mp hd, ← visit] at hm
      obtain ⟨v, hv, rfl⟩ := Option.map_eq_some_iff.mp hm
      exact h.visit v hv
  visit v hv := by rw [gone] at hv; cases hv
  users := by
    have hf : f.visits = if c.latch.isSome then 1 else 0 := by
      rw [← visit, Option.isSome_map]
      rfl
    have hg : g.visits = 0 := by simp [Focus.visits, gone]
    rw [users, h.users, hf, hg, Room.atLatch, Room.atLatch, places, List.countP_append]
    simp
  kept := by rw [latch, users, recorded]; exact h.kept

/-- The call under way does not count any more. The latch stays as long as it is used. -/
theorem depart {v : Visit} {e : Option Ending} (h : Counted (.behind v e) r)
    (latches : q.latches = r.latches) (users : q.users = tally (r.users.getD 0 - 1))
    (places : q.places = r.places)
    (latch : q.latch = if q.users.isSome ∨ q.recorded.isSome then r.latch else none)
    {id : CallId} {request : Request} : Counted (.through id request e) q := by
  have hr : r.users.getD 0 = r.atLatch + 1 := by
    rw [h.users, getD_tally]
    rfl
  have hq : q.users = tally q.atLatch := by
    rw [users, hr, Room.atLatch, Room.atLatch, places, Nat.add_sub_cancel]
  refine ⟨h.numbered.keep (by rw [latches]) ?_, ?_, ?_, ?_, ?_⟩
  · rw [latch]
    split
    · exact .inl rfl
    · exact .inr rfl
  · intro c hc n hn
    have hpos : 0 < q.atLatch := by
      rw [Room.atLatch, List.countP_pos_iff]
      exact ⟨c, hc, by simp [hn]⟩
    have hu : q.users.isSome := by
      rw [hq, isSome_tally]
      omega
    rw [latch, if_pos (.inl hu)]
    exact h.same c (places ▸ hc) n hn
  · intro w hw
    cases hw
  · exact hq
  · have hl := h.visit v rfl
    rw [latch]
    split
    · rename_i hs
      simpa [hl] using hs
    · rename_i hs
      simpa using hs

end Counted

theorem Room.latches_knock (r : Room) :
    r.knock.latches = if r.latch.isSome then r.latches
      else r.latches ++ [(r.latches.length, ({} : Latch))] := by
  unfold knock latchNumber
  cases h : r.latch <;> simp

theorem Counted.knock {r : Room} {id : CallId} {request : Request}
    (h : Counted (.calling id request) r) :
    Counted (.before ⟨id, request, r.latchNumber⟩) r.knock where
  numbered := by
    constructor
    · rw [Room.latches_knock]
      split
      · exact h.numbered.numbers
      · rw [List.map_append, h.numbered.numbers, List.length_append, List.length_singleton,
          List.range_succ]
        rfl
    · intro n hn
      have hn : r.latchNumber = n := by simpa [Room.knock] using hn
      subst hn
      rw [Room.latches_knock]
      unfold Room.latchNumber
      cases hl : r.latch with
      | none => simp
      | some n => simpa using h.numbered.inRange n hl
  same c hc n hn := by
    have := h.same c hc n hn
    simp [Room.knock, Room.latchNumber, this]
  visit v hv := by cases hv; rfl
  users := by
    change some (r.users.getD 0 + 1) = _
    rw [h.users, getD_tally]
    simp [tally, Focus.visits, Focus.visit?, Room.atLatch, Room.places, Room.knock]
  kept := by simp [Room.knock]

theorem Turn.numbers_invite (t : Turn) (n : Nat) (l : Latch × Option CallId) :
    (t.invite n l).room.latches.map (·.1) = t.room.latches.map (·.1) := by
  rw [latches_invite, Room.map_fst_setLatch]

theorem Move.counted {f g : Focus} {t u : Turn} (m : Move f t g u) (p : Placed f t.room)
    (h : Counted f t.room) : Counted g u.room := by
  cases m with
  | drift hd _ =>
    exact h.keep (by rw [hd.latches]) hd.latch hd.users hd.places (.inl hd.recorded) rfl
  | approach _ => exact h.knock
  | enter _ => exact h.keep (Room.map_fst_setLatch _ _ _) rfl rfl rfl (.inl rfl) rfl
  | queue _ =>
    exact h.park (Room.map_fst_setLatch _ _ _) rfl rfl (Turn.places_wait _ _) rfl rfl rfl
  | letIn mem latch phase wake =>
    refine h.remove p.nodup mem ?_ rfl rfl (Turn.places_unpark t _) rfl latch.symm
    exact (Room.map_fst_setLatch _ _ _).trans (Room.map_fst_setLatch _ _ _)
  | retreat mem latch phase wake eq =>
    rename_i u c n
    have hu : Counted (.behind (c.visit n) (some .abandoned)) u.room := by
      refine h.remove p.nodup mem ?_ ?_ ?_ ?_ ?_ latch.symm
      · rw [eq]
        exact Room.map_fst_setLatch _ _ _
      all_goals rw [eq]
      · rfl
      · rfl
      · exact Turn.places_unpark t _
      · rfl
    split
    · exact hu
    · exact hu.keep (Turn.numbers_invite _ _ _) (Turn.latch_invite _ _ _)
        (Turn.users_invite _ _ _) (Turn.places_invite _ _ _) (.inl (Turn.recorded_invite _ _ _)) rfl
  | resume mem latch goesOn awake =>
    exact h.remove p.nodup mem rfl rfl rfl (Turn.places_unpark t _) rfl latch.symm
  | pass line => exact h.keep rfl rfl rfl rfl (.inl rfl) rfl
  | find request recorded live => exact h.keep rfl rfl rfl rfl (.inl rfl) rfl
  | miss line recorded => exact h.keep rfl rfl rfl rfl (.inl rfl) rfl
  | pop line recorded => exact h.keep rfl rfl rfl rfl (.inr ⟨_, rfl⟩) rfl
  | reap hr => exact h.keep rfl rfl rfl rfl (.inl rfl) rfl
  | clear => exact h.keep rfl rfl rfl rfl (.inl rfl) rfl
  | park stage asleep =>
    exact h.park rfl rfl rfl (Turn.places_parkIn _ _ _ _) rfl rfl rfl
  | giveUp he => exact h.keep rfl rfl rfl rfl (.inl rfl) rfl
  | adopt dir b fresh => exact h.keep rfl rfl rfl rfl (.inr ⟨_, rfl⟩) rfl
  | release =>
    exact h.keep (Turn.numbers_invite _ _ _) (Turn.latch_invite _ _ _) (Turn.users_invite _ _ _)
      (Turn.places_release _ _) (.inl (Turn.recorded_invite _ _ _)) rfl
  | depart users more =>
    rename_i v e n
    have hn : n - 1 ≠ 0 := by
      have hu := h.users
      rw [users, tally, Focus.visits] at hu
      simp only [Focus.visit?, Option.isSome_some, if_true] at hu
      split at hu
      · cases hu
      · cases hu
        omega
    exact h.depart (q := { t.room with users := some (n - 1) }) rfl
      (by simp [users, tally, hn]) rfl (by simp)
  | departLast users recorded =>
    exact h.depart (q := { t.room with users := none }) rfl
      (by simp [users, tally]) rfl (by simp [recorded])
  | dropLatch users recorded latch =>
    exact h.depart (q := { t.room with users := none, latch := none }) rfl
      (by simp [users, tally]) rfl (by simp [recorded])
  | stumble lacks => exact absurd lacks h.sound
  | direct hn => exact h.keep rfl rfl rfl rfl (.inl rfl) rfl
  | refuse hs => exact h.keep rfl rfl rfl rfl (.inl rfl) rfl
  | write live input => exact h.keep rfl rfl rfl rfl (.inl rfl) rfl
  | block => exact h.park rfl rfl rfl (Room.places_append _ _) rfl rfl rfl
  | answer he => exact h.keep rfl rfl rfl rfl (.inl rfl) rfl
  | finish => exact h.keep rfl rfl rfl rfl (.inl rfl) rfl
  | drain mem phase he =>
    have latch := (p.suits mem).latch.mpr phase
    exact h.remove p.nodup mem rfl rfl rfl (Turn.places_unpark t _) rfl latch.symm
  | forsake mem latch =>
    exact h.remove p.nodup mem rfl rfl rfl (Turn.places_unpark t _) rfl latch.symm

/-- The count stays right when a call is told to give up. -/
theorem Spares.counted {f : Focus} {t u : Turn} (s : Spares t u) (h : Counted f t.room) :
    Counted f u.room :=
  h.keep s.numbers s.latch s.users s.places (.inl s.recorded) rfl

theorem Counted.atRest {f : Focus} {r : Room} {i : Option CallId} (h : Counted f r)
    (o : f.IsOver i) : Counted .idle r := by
  cases f with
  | idle => exact h
  | closed _ _ => exact h.keep rfl rfl rfl rfl (.inl rfl) rfl
  | _ => cases o

end ToolHost.Session

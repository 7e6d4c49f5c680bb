import Mathlib
import ToolHost.Proofs.Run
import ToolHost.Routine

/-!
# Routines in a run

A routine is carried out in a house in which other things are done too: while it waits for a reply,
while it rests and after it has ended. What it calls for stands in one row with all that others do.
-/
namespace ToolHost

/-- How far a routine has come. -/
inductive Standing (α : Type)
  | going (x : Routine α)
  | waiting (id : CallId) (c : Call) (next : Except Trouble Reply → Routine α)

/-- Whether others may act. -/
def Standing.yields {α : Type} : Standing α → Bool
  | .waiting _ _ _ | .going (.done _) | .going (.rest _ _) => true
  | .going _ => false

/-- Calls of sessions are answered in rooms, and no other calls are. -/
def Action.Answers (a : Action) : Call → Prop
  | .session _ _ => a.session?.isSome
  | _ => a.session? = none

/-- A routine is carried out from a house on to which a run has led: what was done since, the latest
first, the house now, and how far the routine has come. -/
inductive Carried {α : Type} (x : Routine α) (earlier : List Deed) (first : House) :
    List Deed → House → Standing α → Prop
  | start (run : Run earlier first) : Carried x earlier first [] first (.going x)
  | look {later h next} (k : Carried x earlier first later h (.going (.look next))) :
      Carried x earlier first later h (.going (next h))
  | alter {later h f next} (k : Carried x earlier first later h (.going (.alter f next)))
      (aside : h.Aside (f h)) : Carried x earlier first later (f h) (.going next)
  | rest {later h r next} (k : Carried x earlier first later h (.going (.rest r next))) :
      Carried x earlier first later h (.going next)
  | call {later h c next} (k : Carried x earlier first later h (.going (.call c next)))
      (id : CallId)
      (call : ∀ q, (Action.begin id c).call? = some q →
        q.1 ∉ (begun (later ++ earlier)).map (·.1)) :
      Carried x earlier first (⟨h, .begin id c⟩ :: later) (h.act (.begin id c)).house
        (.waiting id c next)
  /-- The reply comes with what was done last. -/
  | reply {d later h id c next r}
      (k : Carried x earlier first (d :: later) h (.waiting id c next))
      (answers : d.action.Answers c) (returned : (d.house.act d.action).returned = some (id, r)) :
      Carried x earlier first (d :: later) h (.going (next r))
  | act {later h s} (k : Carried x earlier first later h s) (yields : s.yields) (a : Action)
      (call : ∀ q, a.call? = some q → q.1 ∉ (begun (later ++ earlier)).map (·.1))
      (birth : ∀ b, a.birth? = some b → ∀ name, b.pid ∉ (h.room name).pids) :
      Carried x earlier first (⟨h, a⟩ :: later) (h.act a).house s
  | aside {later h g s} (k : Carried x earlier first later h s) (yields : s.yields)
      (aside : h.Aside g) : Carried x earlier first later g s

namespace Carried

variable {α : Type} {x : Routine α} {earlier later : List Deed} {first h : House}
  {s : Standing α}

theorem origin (k : Carried x earlier first later h s) : Run earlier first := by
  induction k with
  | start run => exact run
  | _ => assumption

/-- A call brings no process into being when it begins. -/
theorem birth_begin (id : CallId) (c : Call) : (Action.begin id c).birth? = none := by
  cases c <;> rfl

/-- All that was done makes one run. -/
theorem run (k : Carried x earlier first later h s) : Run (later ++ earlier) h := by
  induction k with
  | start run => exact run
  | look _ ih => exact ih
  | alter _ aside ih => exact ih.aside aside
  | rest _ ih => exact ih
  | call _ id call ih =>
    refine ih.act _ call fun b hb => ?_
    rw [birth_begin] at hb
    cases hb
  | reply _ _ _ ih => exact ih
  | act _ _ a call birth ih => exact ih.act a call birth
  | aside _ _ aside ih => exact ih.aside aside

/-- Others act by a script of new calls and new processes. -/
theorem play (k : Carried x earlier first later h s) (yields : s.yields) (as : List Action)
    (new : areNew (later ++ earlier) h as) :
    Carried x earlier first (ToolHost.play later h as).1 (ToolHost.play later h as).2 s := by
  induction as generalizing later h with
  | nil => exact k
  | cons a as ih =>
    simp only [areNew, Action.isNew, Bool.and_eq_true] at new
    obtain ⟨⟨call, birth⟩, rest⟩ := new
    refine ih (k.act yields a ?_ ?_) rest
    · intro q hq
      simpa [hq] using call
    · intro b hb
      refine House.not_mem_pids ?_
      simpa [hb] using birth

end Carried

end ToolHost

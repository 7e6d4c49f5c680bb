import Mathlib
import ToolHost.Proofs.Run

/-!
# When a latch is there

The latch of a name is made by the first call that comes to it and given up by the last one that
leaves, unless a session is recorded then. Whatever happens, be it that calls fail or are told to
give up wherever they wait, the count of those at the latch is right, all of them are at the same
latch, and none of them finds missing what it gives up.
-/
namespace ToolHost

/-- The latch of a name and the count of its users are as they should be. -/
structure House.LatchKept (h : House) (name : SessionName) : Prop where
  users : (h.room name).users = Session.tally ((h.room name).callers.countP (·.latch.isSome))
  kept : (h.room name).latch.isSome ↔ (h.room name).users.isSome ∨ name ∈ h.roster
  same : ∀ c ∈ (h.room name).callers, ∀ n, c.latch = some n → (h.room name).latch = some n
  idle : (∀ c ∈ (h.room name).callers, c.latch = none) →
    ((h.room name).latch.isSome ↔ name ∈ h.roster)

namespace Run

variable {ds : List Deed} {h : House}

theorem latchKept (run : Run ds h) (name : SessionName) : h.LatchKept name := by
  have counted := (run.course name).sound.counted
  have count : (h.room name).atLatch = (h.room name).callers.countP (·.latch.isSome) := by
    rw [Session.Room.atLatch, Session.Room.places, List.countP_map]
    rfl
  have users : (h.room name).users =
      Session.tally ((h.room name).callers.countP (·.latch.isSome)) := by
    rw [← count]
    exact counted.users
  have kept : (h.room name).latch.isSome ↔ (h.room name).users.isSome ∨ name ∈ h.roster :=
    counted.kept.trans (or_congr_right (run.mem_roster name).symm)
  refine ⟨users, kept, ?_, ?_⟩
  · intro c hc n hn
    exact counted.same c.place (Session.Room.place_mem hc) n hn
  · intro none
    have zero : (h.room name).callers.countP (·.latch.isSome) = 0 := by
      rw [List.countP_eq_zero]
      intro c hc
      simp [none c hc]
    rw [kept, users, zero]
    simp [Session.tally]

/-- What a call of a session comes to is never that a key is missing. -/
theorem not_returned_missingKey (run : Run ds h) (name : SessionName) (id : CallId) :
    ¬ Returned ds name id (.error (.breakdown .missingKey)) := by
  intro returned
  obtain ⟨e, d, hd, he, hr⟩ := returned.ending
  obtain ⟨q, _, fair⟩ := (run.course name).fair hd he
  cases e with
  | failed t =>
    cases hr
    exact fair rfl
  | _ => cases hr

end Run

/-- In every house that a run leads to, the users of a latch are counted right, they all use the
same latch, which is there exactly as long as somebody uses it or a session is recorded, and no
call has ever found missing what it gave up. -/
theorem latch_kept {ds : List Deed} {h : House} (run : Run ds h) :
    ∀ name, h.LatchKept name ∧
      ∀ id, ¬ Returned ds name id (.error (.breakdown .missingKey)) :=
  fun name => ⟨run.latchKept name, run.not_returned_missingKey name⟩

/-- A session is being started while a line and a stop wait, and the stop is told to give up. -/
def crowd : List Action :=
  [.begin 1 (.session (.text "x") (.start ⟨.here, []⟩)), .begin 2 (.session (.text "x") .stop),
    .begin 3 (.session (.text "x") (.send "a")), .room (.text "x") (.cancel 2)]

theorem latch_kept_crowd : ((play [] furnished crowd).2.LatchKept (.text "x") ∧
    ∀ id, ¬ Returned (play [] furnished crowd).1 (.text "x") id
      (.error (.breakdown .missingKey))) ∧
    ((play [] furnished crowd).2.room (.text "x")).users = some 3 :=
  ⟨latch_kept (Run.furnished.play crowd (by decide +kernel)) (.text "x"), by decide +kernel⟩

end ToolHost

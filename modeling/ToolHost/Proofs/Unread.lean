import Mathlib
import ToolHost.Proofs.Conversation

/-!
# What is not read

Two routines that differ only in what they would do in houses that they never find lead to the same.
What the user enters after the end of the prompt is only in such places: the prompt does not look at
it.
-/
namespace ToolHost

/-! ## Routines that lead to the same -/

namespace Routine

variable {α β : Type} {x y : Routine α} {s : Front}

/-- Two routines do the same, where nobody else changes the commands or the prompt. -/
def Like : Routine α → Routine α → Front → Prop
  | done a, done b, _ => a = b
  | look next, look other, s => ∀ h : House, h.front = s → (next h).Like (other h) s
  | alter f next, alter g other, s => f = g ∧ ∀ h : House, h.front = s → next.Like other (f h).front
  | call c next, call d other, s => c = d ∧ ∀ r, (next r).Like (other r) s
  | rest q next, rest p other, s => q = p ∧ next.Like other s
  | _, _, _ => False

theorem Like.refl (x : Routine α) (s : Front) : x.Like x s := by
  induction x generalizing s with
  | done a => rfl
  | look next ih => exact fun h _ => ih h s
  | alter f next ih => exact ⟨rfl, fun h _ => ih (f h).front⟩
  | call c next ih => exact ⟨rfl, fun r => ih r s⟩
  | rest r next ih => exact ⟨rfl, ih s⟩

theorem Like.bind {f g : α → Routine β} (h : x.Like y s) (same : ∀ a s, (f a).Like (g a) s) :
    (x.bind f).Like (y.bind g) s := by
  induction x generalizing y s with
  | done a =>
    cases y <;> cases h
    exact same a s
  | look next ih =>
    cases y <;> first | exact fun k front => ih k (h k front) | cases h
  | alter k next ih =>
    cases y <;> first | exact ⟨h.1, fun l front => ih (h.2 l front)⟩ | cases h
  | call c next ih =>
    cases y <;> first | exact ⟨h.1, fun r => ih r (h.2 r)⟩ | cases h
  | rest r next ih =>
    cases y <;> first | exact ⟨h.1, ih h.2⟩ | cases h

end Routine

/-- What has been done so far is the same, and what is left leads to the same. -/
def Standing.Like {α : Type} : Standing α → Standing α → Front → Prop
  | .going x, .going y, s => x.Like y s
  | .waiting id c next, .waiting id' c' other, s =>
    id = id' ∧ c = c' ∧ ∀ r, (next r).Like (other r) s
  | _, _, _ => False

namespace Standing.Like

variable {α : Type} {s t : Standing α} {x : Routine α} {front : Front}

theorem of_going (h : (Standing.going x).Like t front) : ∃ y, t = .going y ∧ x.Like y front := by
  cases t with
  | going y => exact ⟨y, rfl, h⟩
  | waiting id c next => cases h

theorem yields_eq (h : s.Like t front) : s.yields = t.yields := by
  cases s with
  | going x =>
    obtain ⟨y, rfl, same⟩ := h.of_going
    cases x <;> cases y <;> first | rfl | cases same
  | waiting id c next =>
    cases t with
    | going y => cases h
    | waiting id' c' other => rfl

/-- Both get the same reply. -/
theorem receive (h : s.Like t front) (a : Action)
    (returned : Option (CallId × Except Trouble Reply)) :
    (s.receive a returned).Like (t.receive a returned) front := by
  cases s with
  | going x =>
    obtain ⟨y, rfl, same⟩ := h.of_going
    cases returned <;> exact same
  | waiting id c next =>
    cases t with
    | going y => cases h
    | waiting id' c' other =>
      obtain ⟨rfl, rfl, same⟩ := h
      cases returned with
      | none => exact ⟨rfl, rfl, same⟩
      | some r =>
        simp only [Standing.receive]
        split
        · exact same r.2
        · exact ⟨rfl, rfl, same⟩

end Standing.Like

namespace World

variable {α : Type} {allowed : Action → Prop} {w w' : World α} {t : Standing α}

/-- How a routine stands after an action, where one that is like it stood before. -/
theorem like_perform (h : w.standing.Like t w.house.front) (a : Action) :
    (w.perform a).standing.Like (t.receive a (w.house.act a).returned)
      (w.perform a).house.front :=
  (w.house.front_act a).symm ▸ h.receive a _

/-- Each step of one routine is one of the other. -/
theorem Step.like (step : Step allowed w w') (h : w.standing.Like t w.house.front) :
    ∃ t', Step allowed { w with standing := t } { w' with standing := t' } ∧
      w'.standing.Like t' w'.house.front := by
  cases step with
  | look going =>
    rw [going] at h
    obtain ⟨y, rfl, same⟩ := h.of_going
    cases y with
    | look other => exact ⟨_, .look rfl, same w.house rfl⟩
    | _ => cases same
  | alter going aside =>
    rw [going] at h
    obtain ⟨y, rfl, same⟩ := h.of_going
    cases y with
    | alter g other =>
      obtain ⟨rfl, same⟩ := same
      exact ⟨_, .alter rfl aside, same w.house rfl⟩
    | _ => cases same
  | @clear f next going name clears =>
    rw [going] at h
    obtain ⟨y, rfl, same⟩ := h.of_going
    cases y with
    | alter g other =>
      obtain ⟨rfl, same⟩ := same
      have still : (f w.house).front = w.house.front := clears ▸ w.house.front_act _
      have after : (Standing.going next).Like (.going other) w.house.front :=
        still ▸ same w.house rfl
      have clear : Step allowed { w with standing := .going (.alter f other) }
          ({ w with standing := .going other }.perform (.room name .clear)) := .clear rfl clears
      exact ⟨(Standing.going other).receive (.room name .clear) (w.house.act _).returned, clear,
        like_perform (w := { w with standing := .going next }) after _⟩
    | _ => cases same
  | rest going =>
    rw [going] at h
    obtain ⟨y, rfl, same⟩ := h.of_going
    cases y with
    | rest r other =>
      obtain ⟨rfl, same⟩ := same
      exact ⟨_, .rest rfl, same⟩
    | _ => cases same
  | @call c next going id fresh =>
    rw [going] at h
    obtain ⟨y, rfl, same⟩ := h.of_going
    cases y with
    | call d other =>
      obtain ⟨rfl, same⟩ := same
      have after : (Standing.waiting id c next).Like (.waiting id c other) w.house.front :=
        ⟨rfl, rfl, same⟩
      have call : Step allowed { w with standing := .going (.call c other) }
          ({ w with standing := .waiting id c other }.perform (.begin id c)) := .call rfl fresh
      exact ⟨(Standing.waiting id c other).receive (.begin id c) (w.house.act _).returned, call,
        like_perform (w := { w with standing := .waiting id c next }) after _⟩
    | _ => cases same
  | @job j a yields ready does fresh may =>
    have runs : Step allowed { w with standing := t }
        ({ w with jobs := w.jobs.erase j, standing := t }.perform a) :=
      .job (h.yields_eq ▸ yields) ready does fresh may
    exact ⟨t.receive a (w.house.act a).returned, runs,
      like_perform (w := { w with jobs := w.jobs.erase j }) h a⟩
  | feed yields ready ofChild => exact ⟨t, .feed (h.yields_eq ▸ yields) ready ofChild, h⟩
  | @event a yields happens may =>
    have occurs : Step allowed { w with standing := t } ({ w with standing := t }.perform a) :=
      .event (h.yields_eq ▸ yields) happens may
    exact ⟨t.receive a (w.house.act a).returned, occurs, like_perform h a⟩

theorem Reaches.like {x y : Routine α} {k : House} (same : x.Like y k.front)
    (reach : Reaches allowed (.opening x k) w) :
    ∃ t, Reaches allowed (.opening y k) { w with standing := t } ∧
      w.standing.Like t w.house.front := by
  induction reach with
  | refl => exact ⟨.going y, .refl, same⟩
  | tail _ step ih =>
    obtain ⟨t, reach, like⟩ := ih
    obtain ⟨t', step, like⟩ := step.like like
    exact ⟨t', reach.tail step, like⟩

/-- What is like a routine that has ended has ended as well. -/
theorem result?_of_like (h : w.standing.Like t w.house.front) {a : α}
    (result : w.result? = some a) : ({ w with standing := t } : World α).result? = some a := by
  unfold result? at result
  split at result
  · next b going =>
    obtain rfl := Option.some.inj result
    rw [going] at h
    obtain ⟨y, rfl, same⟩ := h.of_going
    cases y with
    | done c =>
      obtain rfl : b = c := same
      rfl
    | _ => cases same
  · cases result

end World

/-! ## The end of the prompt -/

namespace Conduct

open Routine

variable {α β : Type} {s : Front}

theorem like_bind (x : Conduct α) {f g : α → Conduct β}
    (same : ∀ a s, (f a).run.Like (g a).run s) : (x >>= f).run.Like (x >>= g).run s := by
  rw [run_bind, run_bind]
  refine (Like.refl x.run s).bind fun r t => ?_
  cases r with
  | ok a => exact same a t
  | error e => exact .refl _ _

theorem like_bind_left {x y : Conduct α} (h : x.run.Like y.run s) (f : α → Conduct β) :
    (x >>= f).run.Like (y >>= f).run s := by
  rw [run_bind, run_bind]
  exact h.bind fun _ _ => .refl _ _

theorem like_attempt {x y : Conduct α} (h : x.run.Like y.run s) :
    x.attempt.run.Like y.attempt.run s := by
  rw [run_attempt, run_attempt]
  exact h.bind fun _ _ => .refl _ _

end Conduct

namespace Prompt

open Conduct Routine

variable {d : Desk} {s : Front} {quit : Input}

/-- A prompt that has ended does not look at what is left. -/
theorem like_of_ended (ended : s.2 = false) (left other : List Input) :
    (readLines d left).run.Like (readLines d other).run s := by
  have stops (h : House) (same : h.front = s) : h.isPrompting = false := by
    rw [← ended, ← same]
    rfl
  cases left <;> cases other
  all_goals
    intro h same
    change Like (ExceptT.run (if h.isPrompting then _ else _))
      (ExceptT.run (if h.isPrompting then _ else _)) s
    rw [stops h same]
    exact rfl

/-- What stands behind the end of the prompt does not matter. -/
theorem like_readLines (quits : leaves quit) (before left other : List Input) (s : Front) :
    (readLines d (before ++ quit :: left)).run.Like
      (readLines d (before ++ quit :: other)).run s := by
  induction before generalizing s with
  | nil =>
    intro h same
    change Like (ExceptT.run (if h.isPrompting then _ else _))
      (ExceptT.run (if h.isPrompting then _ else _)) s
    split
    · cases quit with
      | interrupt => cases quits
      | line text =>
        have ends : (handleLine d text >>= fun _ => readLines d left).run.Like
            (handleLine d text >>= fun _ => readLines d other).run s := by
          rw [run_bind, run_bind, handleLine_of_leaves quits]
          exact ⟨rfl, fun k _ => like_of_ended rfl left other⟩
        exact ⟨rfl, ends⟩
    · exact rfl
  | cons input before ih =>
    intro h same
    change Like (ExceptT.run (if h.isPrompting then _ else _))
      (ExceptT.run (if h.isPrompting then _ else _)) s
    split
    · cases input with
      | interrupt => exact ⟨rfl, ih s⟩
      | line text => exact ⟨rfl, like_bind (handleLine d text) fun _ => ih⟩
    · exact rfl

theorem like_run (quits : leaves quit) (before left other : List Input) (s : Front) :
    (run d (before ++ quit :: left)).run.Like (run d (before ++ quit :: other)).run s :=
  like_bind _ fun _ _ => like_bind _ fun _ _ => like_bind _ fun _ _ => like_bind _ fun _ s =>
    like_bind_left (like_readLines quits before left other s) _

end Prompt

namespace Cli

open Conduct Prompt Routine

variable {quit : Input} {settings : Config.Settings} {dir : Machine.Path} {s : Front}

/-- What stands behind the end of the prompt does not matter to the program. -/
theorem like_exitCode (quits : leaves quit) (before left other : List Input)
    (sessionName : Option String) :
    (exitCode ⟨settings, dir, before ++ quit :: left⟩ (.repl sessionName)).run.Like
      (exitCode ⟨settings, dir, before ++ quit :: other⟩ (.repl sessionName)).run s := by
  have interacts : (interact ⟨settings, dir, before ++ quit :: left⟩ sessionName).run.Like
      (interact ⟨settings, dir, before ++ quit :: other⟩ sessionName).run s :=
    like_bind _ fun _ _ => like_bind _ fun h _ => like_bind _ fun _ s =>
      like_bind_left (like_run quits before left other s) _
  exact like_bind_left (like_attempt (like_bind_left (like_attempt interacts) _)) _

end Cli

end ToolHost

import Mathlib
import ToolHost.Proofs.Asking

/-!
# From instant to instant

At every instant at which a routine has the say, all calls of sessions have come to their end. What
the routine leads to follows from it step by step, for all that others may do while it waits and all
replies that come of that, as long as what is done is fair. What is shown of the steps holds of
every run in the event loop.
-/
namespace ToolHost

/-! ## What others do -/

/-- Others act in a house, one after another, and begin no call of a session. -/
inductive Acted (h : House) : List Deed → House → Prop
  | nil : Acted h [] h
  | cons {es : List Deed} {k : House} (before : Acted h es k) {a : Action} (none : a.call? = none) :
      Acted h (⟨k, a⟩ :: es) (k.act a).house

namespace Acted

variable {h k l : House} {es fs : List Deed}

theorem trans (x : Acted h es k) (y : Acted k fs l) : Acted h (fs ++ es) l := by
  induction y with
  | nil => exact x
  | cons before none ih => exact ih.cons none

theorem begun_eq (x : Acted h es k) : begun es = [] := by
  induction x with
  | nil => rfl
  | cons before none ih => rw [begun_cons, none, ih]; rfl

/-- What every action preserves is preserved. -/
theorem preserves {P : House → Prop} (x : Acted h es k) (step : ∀ k a, P k → P (k.act a).house)
    (start : P h) : P k := by
  induction x with
  | nil => exact start
  | cons before none ih => exact step _ _ ih

theorem front_eq (x : Acted h es k) : k.front = h.front :=
  x.preserves (P := fun k => k.front = h.front) (fun k a same => (k.front_act a).trans same) rfl

end Acted

/-! ## Instants -/

/-- An instant at which a routine has the say. Nobody was told to give up, calls took turns and have
come to their end, and all that was done is fair. -/
structure Instant (Fair : Deed → Prop) where
  done : List Deed
  house : House
  run : Run done house
  calm : Calm done
  inTurn : InTurn done
  returned : AllReturned done
  fair : ∀ d ∈ done, Fair d

namespace Instant

variable {Fair : Deed → Prop} {m m' m'' : Instant Fair}

/-- Others act in between. -/
def Later (m m' : Instant Fair) : Prop :=
  ∃ es, m'.done = es ++ m.done ∧ Acted m.house es m'.house

/-- A routine changes the house on the spot. What is an action in a room counts as one. -/
inductive Altered (f : House → House) (m m' : Instant Fair) : Prop
  | aside (house : m'.house = f m.house) (done : m'.done = m.done)
      (aside : m.house.Aside m'.house) : Altered f m m'
  | clear (house : m'.house = f m.house) {name : SessionName}
      (done : m'.done = ⟨m.house, .room name .clear⟩ :: m.done)
      (clears : m'.house = (m.house.act (.room name .clear)).house) : Altered f m m'

/-- A call is made, and its reply comes with what was done last. -/
inductive Answered (c : Call) (r : Except Trouble Reply) (m m' : Instant Fair) : Prop
  | intro {id : CallId} {es earlier : List Deed} {d : Deed}
      (done : m'.done = es ++ ⟨m.house, .begin id c⟩ :: m.done)
      (acted : Acted (m.house.act (.begin id c)).house es m'.house)
      (last : m'.done = d :: earlier) (answers : d.action.Answers c)
      (returned : (d.house.act d.action).returned = some (id, r)) : Answered c r m m'

theorem Later.refl (m : Instant Fair) : m.Later m := ⟨[], rfl, .nil⟩

theorem Later.trans (x : m.Later m') (y : m'.Later m'') : m.Later m'' := by
  obtain ⟨es, done, acted⟩ := x
  obtain ⟨fs, done', acted'⟩ := y
  exact ⟨fs ++ es, by rw [done', done, List.append_assoc], acted.trans acted'⟩

theorem Later.demands_eq (x : m.Later m') : demands m'.done = demands m.done := by
  obtain ⟨es, done, acted⟩ := x
  rw [demands, done, begun_append, acted.begun_eq]
  rfl

theorem Later.front_eq (x : m.Later m') : m'.house.front = m.house.front := by
  obtain ⟨es, -, acted⟩ := x
  exact acted.front_eq

theorem Later.suffix (x : m.Later m') : m.done <:+ m'.done := by
  obtain ⟨es, done, -⟩ := x
  exact ⟨es, done.symm⟩

variable {f : House → House} {c : Call} {r : Except Trouble Reply}

theorem Altered.house_eq (x : m.Altered f m') : m'.house = f m.house := by
  cases x <;> assumption

theorem Altered.demands_eq (x : m.Altered f m') : demands m'.done = demands m.done := by
  cases x with
  | aside _ done _ => rw [done]
  | clear _ done _ => exact done ▸ (demands_cons _ _).trans (List.append_nil _)

theorem Altered.suffix (x : m.Altered f m') : m.done <:+ m'.done := by
  cases x with
  | aside _ done _ => exact ⟨[], done.symm⟩
  | clear _ done _ => exact ⟨[_], done.symm⟩

theorem Answered.demands_eq (x : m.Answered c r m') :
    demands m'.done = demands m.done ++ c.demand?.toList := by
  obtain ⟨done, acted, -, -, -⟩ := x
  rw [done, demands, begun_append, acted.begun_eq]
  exact (demands_cons _ _).trans (by rw [Action.call?_begin])

theorem Answered.front_eq (x : m.Answered c r m') : m'.house.front = m.house.front := by
  obtain ⟨-, acted, -, -, -⟩ := x
  exact acted.front_eq.trans (House.front_act _ _)

theorem Answered.suffix (x : m.Answered c r m') : m.done <:+ m'.done := by
  obtain ⟨done, -, -, -, -⟩ := x
  exact done ▸ (List.suffix_cons _ _).trans (List.suffix_append _ _)

end Instant

/-! ## Routines -/

namespace Routine

variable {α β : Type} {Fair : Deed → Prop} {Ends Later : Instant Fair → α → Prop} {m : Instant Fair}

/-- Whatever others do and whatever the replies are, the routine ends as it should. -/
def Fares (Ends : Instant Fair → α → Prop) : Routine α → Instant Fair → Prop
  | done a, m => ∀ m', m.Later m' → Ends m' a
  | look next, m => (next m.house).Fares Ends m
  | alter f next, m => ∀ m', m.Altered f m' → next.Fares Ends m'
  | call c next, m => ∀ m' r, m.Answered c r m' → (next r).Fares Ends m'
  | rest _ next, m => ∀ m', m.Later m' → next.Fares Ends m'

namespace Fares

theorem mono {x : Routine α} (h : x.Fares Ends m) (wider : ∀ m a, Ends m a → Later m a) :
    x.Fares Later m := by
  induction x generalizing m with
  | done a => exact fun m' later => wider m' a (h m' later)
  | look next ih => exact ih m.house h
  | alter f next ih => exact fun m' altered => ih (h m' altered)
  | call c next ih => exact fun m' r answered => ih r (h m' r answered)
  | rest r next ih => exact fun m' later => ih (h m' later)

theorem and {x : Routine α} (h : x.Fares Ends m) (k : x.Fares Later m) :
    x.Fares (fun m a => Ends m a ∧ Later m a) m := by
  induction x generalizing m with
  | done a => exact fun m' later => ⟨h m' later, k m' later⟩
  | look next ih => exact ih m.house h k
  | alter f next ih => exact fun m' altered => ih (h m' altered) (k m' altered)
  | call c next ih => exact fun m' r answered => ih r (h m' r answered) (k m' r answered)
  | rest r next ih => exact fun m' later => ih (h m' later) (k m' later)

/-- A routine that is put together goes on where a part of it has ended. -/
theorem bind {f : α → Routine β} {Ends : Instant Fair → β → Prop} {x : Routine α}
    (h : x.Fares (fun m a => (f a).Fares Ends m) m) : (x.bind f).Fares Ends m := by
  induction x generalizing m with
  | done a => exact h m (.refl m)
  | look next ih => exact ih m.house h
  | alter g next ih => exact fun m' altered => ih (h m' altered)
  | call c next ih => exact fun m' r answered => ih r (h m' r answered)
  | rest r next ih => exact fun m' later => ih (h m' later)

/-- What was done stays done. -/
theorem suffix (x : Routine α) (m : Instant Fair) :
    x.Fares (fun m' _ => m.done <:+ m'.done) m := by
  have grows {x : Routine α} {m m' : Instant Fair} (old : m.done <:+ m'.done)
      (h : x.Fares (fun m'' _ => m'.done <:+ m''.done) m') :
      x.Fares (fun m'' _ => m.done <:+ m''.done) m' :=
    h.mono fun _ _ new => old.trans new
  induction x generalizing m with
  | done a => exact fun m' later => later.suffix
  | look next ih => exact ih m.house m
  | alter f next ih => exact fun m' altered => grows altered.suffix (ih m')
  | call c next ih => exact fun m' r answered => grows answered.suffix (ih r m')
  | rest r next ih => exact fun m' later => grows later.suffix (ih m')

/-- While a routine rests, and when it has ended, others may act. -/
theorem later {x : Routine α} (h : x.Fares Ends m) {m' : Instant Fair}
    (yields : (Standing.going x).yields = true) (later : m.Later m') : x.Fares Ends m' := by
  cases x with
  | done a => exact fun m'' after => h m'' (later.trans after)
  | rest r next => exact fun m'' after => h m'' (later.trans after)
  | _ => cases yields

end Fares

/-- What a routine keeps to for all replies it keeps to for those that it gets. -/
theorem Keeps.fares {Right : List Demand → Prop} {Ends : Front → List Demand → α → Prop}
    {x : Routine α} (h : x.Keeps Right Ends m.house.front (demands m.done)) :
    x.Fares (fun m a => Ends m.house.front (demands m.done) a) m := by
  induction x generalizing m with
  | done a =>
    intro m' later
    rw [later.front_eq, later.demands_eq]
    exact h
  | look next ih => exact ih m.house (h m.house rfl)
  | alter f next ih =>
    intro m' altered
    obtain ⟨new, same, h⟩ := h
    refine ih ?_
    rw [altered.house_eq, same m.house rfl, altered.demands_eq]
    exact h
  | call c next ih =>
    intro m' r answered
    refine ih r ?_
    rw [answered.front_eq, answered.demands_eq]
    exact h.2 r
  | rest r next ih =>
    intro m' later
    refine ih ?_
    rw [later.front_eq, later.demands_eq]
    exact h

end Routine

/-! ## In the event loop -/

namespace World

variable {α : Type} {allowed : Action → Prop} {Fair : Deed → Prop} {Ends : Instant Fair → α → Prop}
  {w w' : World α}

/-- How far a routine has come, since it had the say for the last time. -/
def Fares (Ends : Instant Fair → α → Prop) (w : World α) : Prop :=
  match w.standing with
  | .going x => ∃ m : Instant Fair, m.done = w.done ∧ m.house = w.house ∧ x.Fares Ends m
  | .waiting id c next => ∃ (m : Instant Fair) (es : List Deed),
      w.done = es ++ ⟨m.house, .begin id c⟩ :: m.done ∧
        Acted (m.house.act (.begin id c)).house es w.house ∧
          ∀ m' r, m.Answered c r m' → (next r).Fares Ends m'

/-- An instant in the event loop. -/
def Steady.instant (h : w.Steady) {x : Routine α} (going : w.standing = .going x)
    (fair : ∀ d ∈ w.done, Fair d) : Instant Fair where
  done := w.done
  house := w.house
  run := h.run
  calm := h.calm
  inTurn := h.inTurn
  returned := h.allReturned going
  fair := fair

theorem Fares.going {x : Routine α} (going : w.standing = .going x) :
    w.Fares Ends ↔ ∃ m : Instant Fair, m.done = w.done ∧ m.house = w.house ∧ x.Fares Ends m := by
  unfold Fares
  rw [going]

/-- A routine that waits goes on with the reply, if what was done last is one. -/
theorem Fares.receive {id : CallId} {c : Call} {next : Except Trouble Reply → Routine α}
    {m : Instant Fair} {es : List Deed} {a : Action}
    (steady : (w.perform a).Steady) (fair : ∀ d ∈ (w.perform a).done, Fair d)
    (standing : w.standing = .waiting id c next)
    (done : (w.perform a).done = es ++ ⟨m.house, .begin id c⟩ :: m.done)
    (acted : Acted (m.house.act (.begin id c)).house es (w.perform a).house)
    (fares : ∀ m' r, m.Answered c r m' → (next r).Fares Ends m') :
    (w.perform a).Fares Ends := by
  have stands : (w.perform a).standing =
      (Standing.waiting id c next).receive a (w.house.act a).returned := by rw [← standing]; rfl
  cases returned : (w.house.act a).returned with
  | none =>
    rw [returned] at stands
    unfold Fares
    rw [stands]
    exact ⟨m, es, done, acted, fares⟩
  | some x =>
    obtain ⟨ended, reply⟩ := x
    rw [returned] at stands
    by_cases own : ended = id ∧ a.Answers c
    · obtain ⟨rfl, answers⟩ := own
      have goes : (w.perform a).standing = .going (next reply) := by
        rw [stands]
        simp [Standing.receive, answers]
      exact (Fares.going goes).mpr ⟨steady.instant goes fair, rfl, rfl,
        fares _ reply (.intro done acted rfl answers returned)⟩
    · have waits : (w.perform a).standing = .waiting id c next := by
        rw [stands]
        simp only [Standing.receive, own, if_false]
      unfold Fares
      rw [waits]
      exact ⟨m, es, done, acted, fares⟩

/-- Others act while the routine waits, rests or has ended. -/
theorem Fares.others (h : w.Fares Ends) (yields : w.standing.yields = true) {a : Action}
    (none : a.call? = none) (steady : (w.perform a).Steady)
    (fair : ∀ d ∈ (w.perform a).done, Fair d) : (w.perform a).Fares Ends := by
  cases standing : w.standing with
  | going x =>
    obtain ⟨m, done, house, fares⟩ := (Fares.going standing).mp h
    have goes : (w.perform a).standing = .going x := by
      change w.standing.receive a _ = _
      rw [standing]
      cases (w.house.act a).returned <;> rfl
    refine (Fares.going goes).mpr ⟨steady.instant goes fair, rfl, rfl, ?_⟩
    refine fares.later (standing ▸ yields) ⟨[⟨w.house, a⟩], ?_, ?_⟩
    · exact done ▸ rfl
    · rw [house]
      exact Acted.nil.cons none
  | waiting id c next =>
    unfold Fares at h
    rw [standing] at h
    obtain ⟨m, es, done, acted, fares⟩ := h
    exact .receive steady fair standing
      (show ⟨w.house, a⟩ :: w.done = (⟨w.house, a⟩ :: es) ++ _ from done ▸ rfl)
      (acted.cons none) fares

theorem Step.suffix (step : Step allowed w w') : w.done <:+ w'.done := by
  cases step with
  | clear => exact ⟨[_], rfl⟩
  | call => exact ⟨[_], rfl⟩
  | job => exact ⟨[_], rfl⟩
  | event => exact ⟨[_], rfl⟩
  | _ => exact List.suffix_rfl

theorem Fares.step (h : w.Fares Ends) (steady : w'.Steady) (fair : ∀ d ∈ w'.done, Fair d)
    (step : Step allowed w w') : w'.Fares Ends := by
  cases step with
  | look going =>
    obtain ⟨m, done, house, fares⟩ := (Fares.going going).mp h
    exact ⟨m, done, house, house ▸ fares⟩
  | alter going aside =>
    obtain ⟨m, done, house, fares⟩ := (Fares.going going).mp h
    refine ⟨steady.instant rfl fair, rfl, rfl, fares _ (.aside ?_ done.symm ?_)⟩
    · rw [house]
      rfl
    · rw [house]
      exact aside
  | @clear f next going name clears =>
    obtain ⟨m, done, house, fares⟩ := (Fares.going going).mp h
    have goes : ({ w with standing := .going next }.perform (.room name .clear)).standing =
        .going next := rfl
    refine (Fares.going goes).mpr ⟨steady.instant goes fair, rfl, rfl, fares _ ?_⟩
    refine @Instant.Altered.clear _ _ _ _ ?_ name ?_ ?_
    · rw [house]
      exact clears.symm
    · rw [house, done]
      rfl
    · rw [house]
      rfl
  | rest going =>
    obtain ⟨m, done, house, fares⟩ := (Fares.going going).mp h
    exact ⟨m, done, house, fares m (.refl m)⟩
  | @call c next going id fresh =>
    obtain ⟨m, done, house, fares⟩ := (Fares.going going).mp h
    have begins : ⟨w.house, .begin id c⟩ :: w.done = [] ++ ⟨m.house, .begin id c⟩ :: m.done := by
      rw [house, done]
      rfl
    exact .receive (w := { w with standing := .waiting id c next }) steady fair rfl begins
      (by rw [house]; exact .nil) fares
  | @job j a yields ready does fresh may =>
    exact Fares.others (w := { w with jobs := w.jobs.erase j }) h yields does.call?_eq_none
      steady fair
  | feed yields ready ofChild => exact h
  | event yields happens may => exact h.others yields happens.call?_eq_none steady fair

/-- How a routine fares in the loop, from a house in which nobody has asked for a session yet. -/
theorem Fares.of_reaches {x : Routine α} {h : House} (rooms : h.rooms = []) (roster : h.roster = [])
    (trace : h.trace = [])
    (fares : ∀ m : Instant Fair, m.done = [] → m.house = h → x.Fares Ends m)
    (reach : Reaches allowed (.opening x h) w) (fair : ∀ d ∈ w.done, Fair d) : w.Fares Ends := by
  induction reach with
  | refl =>
    have reach : Reaches allowed (.opening x h) (.opening x h) := .refl
    have steady : (opening x h).Steady := .of_reaches rooms roster trace reach
    exact ⟨steady.instant rfl fair, rfl, rfl, fares _ rfl rfl⟩
  | @tail v w reach step ih =>
    have steady : w.Steady := .of_reaches rooms roster trace (reach.tail step)
    exact (ih fun d hd => fair d (step.suffix.subset hd)).step steady fair step

/-- Where the routine has come to something, it has ended as it should. -/
theorem Fares.ends (h : w.Fares Ends) {a : α} (result : w.result? = some a) :
    ∃ m : Instant Fair, m.done = w.done ∧ m.house = w.house ∧ Ends m a := by
  unfold result? at result
  split at result
  · next b standing =>
    obtain rfl := Option.some.inj result
    obtain ⟨m, done, house, fares⟩ := (Fares.going standing).mp h
    exact ⟨m, done, house, fares m (.refl m)⟩
  · cases result

end World

end ToolHost

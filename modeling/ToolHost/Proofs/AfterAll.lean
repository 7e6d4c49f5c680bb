import Mathlib
import ToolHost.Proofs.Conversation
import ToolHost.Proofs.Intervals

/-!
# After all

Whatever comes of a mode, the sessions that are recorded then are stopped, and nobody else begins
anything any more. So when the program ends no process of any session runs, and what held when the
mode had been carried out still holds if stops do not change it.
-/
namespace ToolHost

open Session (Request)

namespace Instant

variable {Fair : Deed → Prop} {m m' m'' : Instant Fair} {name : SessionName}
  {r : Except Trouble Reply}

/-- Only stops begin in between. -/
def Stops (m m' : Instant Fair) : Prop :=
  ∃ es, m'.done = es ++ m.done ∧ ∀ x ∈ begun es, x.2.2 = .stop

theorem Stops.of_after (es : ∃ es, m'.done = es ++ m.done ∧ begun es = []) : m.Stops m' := by
  obtain ⟨es, done, none⟩ := es
  exact ⟨es, done, by simp [none]⟩

theorem Answered.stops (x : m.Answered (.session name .stop) r m') : m.Stops m' := by
  obtain ⟨id, es, done, began, -⟩ := x.begins
  exact ⟨es, done, by simp [began]⟩

theorem Later.stops (x : m.Later m') : m.Stops m' := by
  obtain ⟨es, done, acted⟩ := x
  exact .of_after ⟨es, done, acted.begun_eq⟩

/-- What is closed stays closed. -/
theorem Stops.closed (x : m.Stops m') (closed : m.house.Closed name) : m'.house.Closed name := by
  obtain ⟨es, done, stop⟩ := x
  exact closed_of_closed done (fun q hq => by rw [stop q hq]; rfl) closed

/-- A name that is not on the roster is closed. -/
theorem closed_of_roster (m : Instant Fair) (name : SessionName) :
    name ∈ m.house.roster ∨ m.house.Closed name := by
  rw [m.run.mem_roster name]
  cases recorded : (m.house.room name).recorded with
  | none => exact .inr (m.closed_of_recorded recorded)
  | some pid => exact .inl rfl

end Instant

theorem demands_append (xs ys : List Deed) : demands (xs ++ ys) = demands ys ++ demands xs := by
  simp [demands, begun_append]

/-- Where nothing is asked no call begins. -/
theorem Routine.Fares.of_asks {α : Type} {Fair : Deed → Prop} {x : Routine α}
    (silent : ∀ s, x.Asks s []) (m : Instant Fair) : x.Fares (fun m' _ => m.Stops m') m := by
  have keeps : x.Keeps (fun _ => True) (fun _ ds _ => ds = demands m.done) m.house.front
      (demands m.done) :=
    (silent _ _ _ trivial).mono fun _ _ _ same => same.2.trans (List.append_nil _)
  refine (keeps.fares.and (.suffix x m)).mono ?_
  rintro m' a ⟨same, es, done⟩
  refine .of_after ⟨es, done.symm, ?_⟩
  rw [← done, demands_append, List.append_right_eq_self] at same
  simpa [demands] using same

/-! ## Stopping in the end -/

section Stopping

variable {Fair : Deed → Prop} {Holds : Instant Fair → Prop}

/-- All names are closed, and what held before holds. -/
def AllClosed (Holds : Instant Fair → Prop) (m : Instant Fair) : Prop :=
  Holds m ∧ ∀ name, m.house.Closed name

variable (stable : ∀ m m', m.Stops m' → Holds m → Holds m')

include stable

theorem AllClosed.stops {m m' : Instant Fair} (h : AllClosed Holds m) (x : m.Stops m') :
    AllClosed Holds m' := ⟨stable m m' x h.1, fun name => x.closed (h.2 name)⟩

/-- When the sessions that are not closed have been stopped one after another, all are. -/
theorem Conduct.fares_stopAll (names : List SessionName) {m : Instant Fair} (holds : Holds m)
    (closed : ∀ name, name ∈ names ∨ m.house.Closed name) :
    (stopAll names).run.Fares
      (fun m' (r : Except Trouble Unit) => r = .ok () ∧ AllClosed Holds m') m := by
  induction names generalizing m with
  | nil =>
    have all : AllClosed Holds m := ⟨holds, fun n => (closed n).resolve_left List.not_mem_nil⟩
    exact fun m' later => ⟨rfl, all.stops stable later.stops⟩
  | cons name names ih =>
    rw [run_stopAll_cons]
    intro m' r answered
    obtain ⟨rfl, closes⟩ := answered.closed
    refine ih (stable m m' answered.stops holds) fun n => ?_
    rcases closed n with mem | closed
    · rcases List.mem_cons.mp mem with rfl | mem
      · exact .inr closes
      · exact .inl mem
    · exact .inr (answered.stops.closed closed)

theorem Conduct.fares_shutDown {m : Instant Fair} (holds : Holds m) :
    shutDown.run.Fares (fun m' (r : Except Trouble Unit) => r = .ok () ∧ AllClosed Holds m') m :=
  fares_stopAll stable m.house.roster holds m.closed_of_roster

namespace Cli

open Conduct Routine

variable {w : Work} {mode : CommandLine.Mode}

/-- Whatever comes of a mode, all sessions are closed in the end. -/
theorem fares_dispatch {m : Instant Fair}
    (h : (carryOut w mode).run.Fares (fun m' _ => Holds m') m) :
    (dispatch w mode).run.Fares (fun m' _ => AllClosed Holds m') m := by
  unfold dispatch
  rw [run_bind, run_attempt]
  refine Fares.bind (Fares.bind (h.mono fun m' r holds k later => ?_))
  change (Conduct.shutDown >>= fun _ => Conduct.ofExcept r).run.Fares _ k
  rw [run_bind]
  refine Fares.bind ((fares_shutDown stable (stable m' k later.stops holds)).mono ?_)
  rintro l u ⟨rfl, all⟩
  exact fun n later => all.stops stable later.stops

theorem fares_exitCode {m : Instant Fair}
    (h : (carryOut w mode).run.Fares (fun m' _ => Holds m') m) :
    (exitCode w mode).run.Fares (fun m' _ => AllClosed Holds m') m := by
  have attempted : (dispatch w mode).attempt.run.Fares
      (fun m' r => ∃ e, r = .ok e ∧ AllClosed Holds m') m := by
    rw [run_attempt]
    refine Fares.bind ((fares_dispatch stable h).mono fun m' r all k later => ?_)
    exact ⟨r, rfl, all.stops stable later.stops⟩
  have ends {r : Except Trouble Int} {m' : Instant Fair} (all : AllClosed Holds m') :
      (Routine.done r).Fares (fun m' _ => AllClosed Holds m') m' :=
    fun k later => all.stops stable later.stops
  unfold exitCode
  rw [run_bind]
  refine Fares.bind (attempted.mono ?_)
  rintro m' r ⟨e, rfl, all⟩
  rw [onward_ok]
  split
  · exact ends all
  · next f =>
    -- What is reported does not matter, and computing it takes long.
    generalize "[red]Error: " ++ Terminal.Markup.escape f.message ++ "[/red]" = markup
    rw [run_bind]
    refine Fares.bind ((Fares.of_asks (fun _ => asks_report markup) m').mono ?_)
    rintro k r stops
    cases r <;> exact ends (all.stops stable stops)
  · exact ends all
  · exact ends all

end Cli

end Stopping

end ToolHost

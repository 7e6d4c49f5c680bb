import Mathlib
import ToolHost.Proofs.EventLoop

/-!
# Scripts for the event loop

A script says, step after step, who comes next and what the world does. It can be followed only
where the loop has every step that it says, so what a script leads to the loop may come to.
-/
namespace ToolHost

/-- What something that is ready in a room does when it runs, where a process is created if one is
waited for. -/
def Job.actionIn? (h : House) (born : Session.Birth) : Job → Option Action
  | .room name (.resume id) =>
    if Rehearsal.Stage.awaitsBirth h name id then some (.room name (.launched id (.ok born)))
    else some (.room name (.resume id))
  | .room name (.relay pid) => some (.room name (.relay pid))
  | .room name (.notice id) => some (.room name (.wake id))
  | _ => none

theorem Job.does_of_actionIn? {h : House} {born : Session.Birth} {j : Job} {a : Action}
    (does : j.actionIn? h born = some a) : j.Does h a := by
  unfold actionIn? at does
  split at does
  · split at does
    · next awaits => exact Option.some.inj does ▸ .created awaits _
    · next awaits => exact Option.some.inj does ▸ .resume (by simpa using awaits)
  · exact Option.some.inj does ▸ .relay _ _
  · exact Option.some.inj does ▸ .notice _ _
  · cases does

/-- Whether the world may do something to a process, or let time pass for a call. -/
def Action.canHappen (h : House) : Action → Bool
  | .room name (.output pid _) | .room name (.closeOutput pid) =>
    ((h.room name).child? pid).any (!·.outputClosed)
  | .room name (.exit pid _) => ((h.room name).child? pid).any (!·.hasEnded)
  | .room name (.wake id) => (h.room name).isInGrace id
  | _ => false

theorem Action.happens_of_canHappen {h : House} {a : Action} (can : a.canHappen h) :
    Happens h a := by
  unfold canHappen at can
  split at can
  · obtain ⟨c, hc, opened⟩ := (Option.any_eq_true _ _).mp can
    exact .output hc (by simpa using opened) _
  · obtain ⟨c, hc, opened⟩ := (Option.any_eq_true _ _).mp can
    exact .closeOutput hc (by simpa using opened)
  · obtain ⟨c, hc, runs⟩ := (Option.any_eq_true _ _).mp can
    exact .exit hc (by simpa using runs) _
  · exact .wake can
  · cases can

/-- Whether no process of that number was created in a house. -/
def House.lacks (h : House) (pid : Pid) : Bool :=
  (h.rooms.all fun e => pid ∉ e.2.pids) && (h.shots.shot? pid).isNone

theorem House.not_knows_of_lacks {h : House} {pid : Pid} (lacks : h.lacks pid) :
    ¬ h.Knows pid := by
  simp only [House.lacks, Bool.and_eq_true, List.all_eq_true, decide_eq_true_eq] at lacks
  rintro (⟨name, mem⟩ | shot)
  · exact House.not_mem_pids lacks.1 name mem
  · rw [Option.isNone_iff_eq_none.mp lacks.2] at shot
    cases shot

/-- Whether only that changed which the rest of the program may change. -/
def House.leadsAside (h k : House) : Bool :=
  decide (k.rooms = h.rooms) && decide (k.roster = h.roster) &&
    decide (h.trace <:+ k.trace) && (k.trace.take (k.trace.length - h.trace.length)).all (·.isAside)

theorem House.aside_of_leadsAside {h k : House} (aside : h.leadsAside k) : h.Aside k := by
  simp only [leadsAside, Bool.and_eq_true, decide_eq_true_eq, List.all_eq_true] at aside
  obtain ⟨⟨⟨rooms, roster⟩, xs, trace⟩, asides⟩ := aside
  refine ⟨rooms, roster, xs, trace.symm, fun x hx => asides x ?_⟩
  simpa [← trace] using hx

namespace World

variable {α : Type} {w v : World α}

/-- One step of a script. -/
inductive Choice
  /-- The routine goes on, as far as it can, and its next call has the given number. -/
  | routine (id : CallId)
  /-- Something that is ready runs. If a process is created, it is the given one. -/
  | job (j : Job) (born : Session.Birth)
  | event (a : Action)

/-- The routine goes on as far as it can. -/
def settle (id : CallId) (done : List Deed) (jobs : List Job) : House → Routine α → Option (World α)
  | h, .done a => some ⟨done, h, jobs, .going (.done a)⟩
  | h, .look next => settle id done jobs h (next h)
  | h, .alter f next => if h.leadsAside (f h) then settle id done jobs (f h) next else none
  | h, .rest _ next => settle id done jobs h next
  | h, .call c next =>
    if id ∈ done.filterMap (·.action.begun?) then none
    else some (perform ⟨done, h, jobs, .waiting id c next⟩ (.begin id c))

theorem reaches_of_settle {id : CallId} {done : List Deed} {jobs : List Job} {x : Routine α}
    {h : House} (settles : settle id done jobs h x = some v) :
    Reaches (fun _ => True) ⟨done, h, jobs, .going x⟩ v := by
  induction x generalizing h with
  | done a => exact Option.some.inj settles ▸ .refl
  | look next ih => exact (ih h settles).head (.look rfl)
  | alter f next ih =>
    rw [settle] at settles
    split at settles
    · next aside => exact (ih settles).head (.alter rfl (House.aside_of_leadsAside aside))
    · cases settles
  | rest r next ih => exact (ih settles).head (.rest rfl)
  | call c next =>
    rw [settle] at settles
    split at settles
    · cases settles
    · next fresh => exact Option.some.inj settles ▸ .single (.call rfl fresh)

/-- What a step of a script leads to, if the loop has it. -/
def choose (w : World α) : Choice → Option (World α)
  | .routine id =>
    match w.standing with
    | .going x => settle id w.done w.jobs w.house x
    | .waiting _ _ _ => none
  | .job j born => do
    let a ← j.actionIn? w.house born
    if w.standing.yields && decide (j ∈ w.jobs) && a.newborn?.all w.house.lacks then
      some ({ w with jobs := w.jobs.erase j }.perform a)
    else none
  | .event a => if w.standing.yields && a.canHappen w.house then some (w.perform a) else none

theorem reaches_of_choose {c : Choice} (chosen : w.choose c = some v) :
    Reaches (fun _ => True) w v := by
  unfold choose at chosen
  split at chosen
  · next id =>
    split at chosen
    · next x going =>
      have same : w = ⟨w.done, w.house, w.jobs, .going x⟩ := by rw [← going]
      rw [same]
      exact reaches_of_settle chosen
    · cases chosen
  · next j born =>
    obtain ⟨a, does, chosen⟩ := Option.bind_eq_some_iff.mp chosen
    split at chosen
    · next can =>
      simp only [Bool.and_eq_true, decide_eq_true_eq] at can
      obtain ⟨⟨yields, ready⟩, lacks⟩ := can
      refine Option.some.inj chosen ▸ .single (.job yields ready (Job.does_of_actionIn? does) ?_
        trivial)
      intro pid newborn
      rw [newborn] at lacks
      exact House.not_knows_of_lacks lacks
    · cases chosen
  · next a =>
    split at chosen
    · next can =>
      obtain ⟨yields, can⟩ := Bool.and_eq_true_iff.mp can
      exact Option.some.inj chosen ▸ .single (.event yields (Action.happens_of_canHappen can) trivial)
    · cases chosen

/-- What a script leads to, if the loop has all its steps. -/
def follow (w : World α) (script : List Choice) : Option (World α) := script.foldlM choose w

theorem reaches_of_follow {script : List Choice} (followed : w.follow script = some v) :
    Reaches (fun _ => True) w v := by
  induction script generalizing w with
  | nil => exact Option.some.inj followed ▸ .refl
  | cons c script ih =>
    obtain ⟨u, chosen, rest⟩ := Option.bind_eq_some_iff.mp followed
    exact (reaches_of_choose chosen).trans (ih rest)

end World

end ToolHost

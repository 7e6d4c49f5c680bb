import Mathlib
import ToolHost.Proofs.CallByCall
import ToolHost.Proofs.Routines

/-!
# What a routine asks for

Which calls of sessions a routine makes follows from the routine, step by step, for all replies that
it may get and all that it may find in the house but what nobody else changes there: the commands,
and whether the prompt goes on. What is shown of the steps holds of every run in the event loop.
-/
namespace ToolHost

/-- What is asked of a session. -/
abbrev Demand := SessionName × Session.Request

/-- What a call asks of a session. -/
def Call.demand? : Call → Option Demand
  | .session name request => some (name, request)
  | _ => none

/-- All that was asked of sessions, in order. -/
def demands (ds : List Deed) : List Demand := ((begun ds).map (·.2)).reverse

theorem demands_cons (d : Deed) (ds : List Deed) :
    demands (d :: ds) = demands ds ++ (d.action.call?.map (·.2)).toList := by
  rw [demands, begun_cons]
  cases d.action.call? <;> simp [demands]

theorem mem_demands {ds : List Deed} {id : CallId} {n : SessionName}
    {q : Session.Request} (h : (id, n, q) ∈ begun ds) :
    (n, q) ∈ demands ds :=
  List.mem_reverse.mpr (List.mem_map.mpr ⟨_, h, rfl⟩)

theorem Action.call?_begin (id : CallId) (c : Call) :
    (Action.begin id c).call?.map (·.2) = c.demand? := by
  cases c <;> rfl

/-- What only routines change: the commands, and whether the prompt goes on. -/
abbrev Front := Registry Command × Bool

def House.front (h : House) : Front := (h.commands, h.isPrompting)

namespace Routine

variable {α β : Type} {Right : List Demand → Prop}
  {Ends : Front → List Demand → α → Prop} {s : Front}
  {ds : List Demand}

/-- With what has been asked so far, whatever the routine goes on to ask is right, and it ends as it
should. -/
def Keeps (Right : List Demand → Prop) (Ends : Front → List Demand → α → Prop) :
    Routine α → Front → List Demand → Prop
  | done a, s, ds => Ends s ds a
  | look next, s, ds => ∀ h : House, h.front = s → (next h).Keeps Right Ends s ds
  | alter f next, s, ds =>
    ∃ new, (∀ h : House, h.front = s → (f h).front = new) ∧ next.Keeps Right Ends new ds
  | call c next, s, ds => Right (ds ++ c.demand?.toList) ∧
    ∀ reply, (next reply).Keeps Right Ends s (ds ++ c.demand?.toList)
  | rest _ next, s, ds => next.Keeps Right Ends s ds

theorem Keeps.mono {Later : Front → List Demand → α → Prop} {x : Routine α}
    (h : x.Keeps Right Ends s ds) (wider : ∀ s ds a, Ends s ds a → Later s ds a) :
    x.Keeps Right Later s ds := by
  induction x generalizing s ds with
  | done a => exact wider s ds a h
  | look next ih => exact fun k same => ih k (h k same)
  | alter f next ih =>
    obtain ⟨new, same, h⟩ := h
    exact ⟨new, same, ih h⟩
  | call c next ih => exact ⟨h.1, fun reply => ih reply (h.2 reply)⟩
  | rest r next ih => exact ih h

/-- A routine that is put together keeps to what is right if its parts do. -/
theorem Keeps.bind {f : α → Routine β} {Later : Front → List Demand → β → Prop}
    {x : Routine α} (h : x.Keeps Right (fun s ds a => (f a).Keeps Right Later s ds) s ds) :
    (x.bind f).Keeps Right Later s ds := by
  induction x generalizing s ds with
  | done a => exact h
  | look next ih => exact fun k same => ih k (h k same)
  | alter g next ih =>
    obtain ⟨new, same, h⟩ := h
    exact ⟨new, same, ih h⟩
  | call c next ih => exact ⟨h.1, fun reply => ih reply (h.2 reply)⟩
  | rest r next ih => exact ih h

end Routine

/-! ## Parts of a routine -/

namespace Routine

variable {α β : Type} {s : Front} {more : List Demand}

/-- Whatever was asked before, this is what a part of a routine asks, and it leaves the commands and
the prompt as they are. -/
def Asks (x : Routine α) (s : Front) (more : List Demand) : Prop :=
  ∀ (Right : List Demand → Prop) (before : List Demand), Right (before ++ more) →
    x.Keeps Right (fun new ds _ => new = s ∧ ds = before ++ more) s before

theorem asks_done (a : α) : (done a).Asks s [] := fun _ before _ => ⟨rfl, (before.append_nil).symm⟩

theorem asks_look {next : House → Routine α} (h : ∀ k : House, k.front = s → (next k).Asks s more) :
    (look next).Asks s more :=
  fun Right before right k same => h k same Right before right

theorem asks_alter {f : House → House} {next : Routine α}
    (same : ∀ k : House, (f k).front = k.front) (h : next.Asks s more) :
    (alter f next).Asks s more :=
  fun Right before right => ⟨s, fun k e => (same k).trans e, h Right before right⟩

theorem asks_call {c : Call} {next : Except Trouble Reply → Routine α}
    (h : ∀ reply, (next reply).Asks s []) : (call c next).Asks s c.demand?.toList := by
  intro Right before right
  refine ⟨right, fun reply => ?_⟩
  have rest := h reply Right (before ++ c.demand?.toList) ((List.append_nil _).symm ▸ right)
  rwa [List.append_nil] at rest

/-- A routine asks what a part of it asks if what comes after asks nothing. -/
theorem Asks.bind {x : Routine α} {f : α → Routine β} (h : x.Asks s more)
    (silent : ∀ a, (f a).Asks s []) : (x.bind f).Asks s more := by
  intro Right before right
  refine Keeps.bind ((h Right before right).mono ?_)
  rintro new ds a ⟨rfl, rfl⟩
  have rest := silent a Right (before ++ more) ((List.append_nil _).symm ▸ right)
  rwa [List.append_nil] at rest

/-- A part that asks something is followed by the rest of the routine. -/
theorem Asks.keeps {x : Routine α} {f : α → Routine β} {Right : List Demand → Prop}
    {Ends : Front → List Demand → β → Prop} {before : List Demand}
    (h : x.Asks s more) (right : Right (before ++ more))
    (rest : ∀ a, (f a).Keeps Right Ends s (before ++ more)) :
    (x.bind f).Keeps Right Ends s before := by
  refine Keeps.bind ((h Right before right).mono ?_)
  rintro new ds a ⟨rfl, rfl⟩
  exact rest a

end Routine

namespace Conduct

open Routine

variable {α β : Type} {s : Front} {more : List Demand}

theorem asks_bind {x : Conduct α} {f : α → Conduct β} (h : x.run.Asks s more)
    (silent : ∀ a, (f a).run.Asks s []) : (x >>= f).run.Asks s more := by
  rw [run_bind]
  refine h.bind fun r => ?_
  cases r with
  | ok a => exact silent a
  | error t => exact asks_done _

/-- The rest of a routine is carried out unless a part of it fails. -/
theorem keeps_bind {x : Conduct α} {f : α → Conduct β} {Right : List Demand → Prop}
    {Ends : Front → List Demand → Except Trouble β → Prop} {before : List Demand}
    (h : x.run.Asks s more) (right : Right (before ++ more))
    (fails : ∀ t, Ends s (before ++ more) (.error t))
    (rest : ∀ a, (f a).run.Keeps Right Ends s (before ++ more)) :
    (x >>= f).run.Keeps Right Ends s before := by
  rw [run_bind]
  refine h.keeps right fun r => ?_
  cases r with
  | ok a => exact rest a
  | error t => exact fails t

/-- A part that asks nothing is passed over. -/
theorem keeps_silent {x : Conduct α} {f : α → Conduct β} {Right : List Demand → Prop}
    {Ends : Front → List Demand → Except Trouble β → Prop} {before : List Demand}
    (h : x.run.Asks s []) (right : Right before) (fails : ∀ t, Ends s before (.error t))
    (rest : ∀ a, (f a).run.Keeps Right Ends s before) :
    (x >>= f).run.Keeps Right Ends s before := by
  have same : before ++ [] = before := List.append_nil before
  exact keeps_bind h (same.symm ▸ right) (fun t => same.symm ▸ fails t) fun a => same.symm ▸ rest a

theorem asks_ask (c : Call) : (ask c).run.Asks s c.demand?.toList := asks_call fun _ => asks_done _

theorem asks_note (x : Happening) : (note x).run.Asks s [] :=
  asks_alter (fun _ => rfl) (asks_done _)

theorem asks_ofExcept (x : Except Trouble α) : (ofExcept x).run.Asks s [] := asks_done _

theorem asks_house : house.run.Asks s [] := asks_look fun _ _ => asks_done _

theorem asks_mapM {f : α → Conduct β} (silent : ∀ a, (f a).run.Asks s []) (as : List α) :
    (as.mapM f).run.Asks s [] := by
  have loop (as : List α) (bs : List β) : (List.mapM.loop f as bs).run.Asks s [] := by
    induction as generalizing bs with
    | nil => exact asks_done _
    | cons a as ih => exact asks_bind (silent a) fun b => ih (b :: bs)
  exact loop as []

theorem asks_forM {f : α → Conduct PUnit} (silent : ∀ a, (f a).run.Asks s []) (as : List α) :
    (as.forM f).run.Asks s [] := by
  induction as with
  | nil => exact asks_done _
  | cons a as ih => exact asks_bind (silent a) fun _ => ih

end Conduct

/-! ## In the event loop -/

/-- An action leaves to routines what is theirs, and the location is the one before or that of an
order. -/
theorem House.act_spares (h : House) (a : Action) : (h.act a).house.front = h.front ∧
    ((h.act a).house.location = h.location ∨
      ∃ o : Install.Order, (h.act a).house.location = o.location) := by
  have install (id : CallId) (target : Machine.Path) (name : String) (url : Value) :
      (h.beginInstall id target name url).house.front = h.front ∧
        ((h.beginInstall id target name url).house.location = h.location ∨
          ∃ o : Install.Order,
            (h.beginInstall id target name url).house.location = o.location) := by
    unfold beginInstall
    simp only
    split
    · exact ⟨rfl, .inl rfl⟩
    · split
      · exact ⟨rfl, .inl rfl⟩
      · exact ⟨rfl, .inr ⟨_, rfl⟩⟩
      · split <;> exact ⟨rfl, .inl rfl⟩
  have receives (id : CallId) (asked : List String) (outcome : Http.Outcome)
      (refusal : Install.Refusal) :
      (h.receive id asked outcome refusal).house.front = h.front ∧
        ((h.receive id asked outcome refusal).house.location = h.location ∨
          ∃ o : Install.Order,
            (h.receive id asked outcome refusal).house.location = o.location) := by
    unfold receive
    split
    · exact ⟨rfl, .inl rfl⟩
    · simp only
      split
      · exact ⟨rfl, .inr ⟨_, rfl⟩⟩
      · exact ⟨rfl, .inl rfl⟩
  cases a with
  | begin id c =>
    cases c with
    | install target name url => exact install id target name url
    | _ => exact ⟨rfl, .inl rfl⟩
  | received id asked outcome refusal => exact receives id asked outcome refusal
  | _ => exact ⟨rfl, .inl rfl⟩

theorem House.front_act (h : House) (a : Action) : (h.act a).house.front = h.front :=
  (h.act_spares a).1

/-- The same of how far a routine has come. -/
def Standing.Keeps {α : Type} (Right : List Demand → Prop)
    (Ends : Front → List Demand → α → Prop) (s : Front) (ds : List Demand) :
    Standing α → Prop
  | .going x => x.Keeps Right Ends s ds
  | .waiting _ _ next => ∀ reply, (next reply).Keeps Right Ends s ds

section Keeps

variable {α : Type} {allowed : Action → Prop} {w w' : World α} {Right : List Demand → Prop}
  {Ends : Front → List Demand → α → Prop}

/-- Whatever the reply is, a routine that gets it keeps to what is right. -/
theorem Standing.Keeps.receive {going : Standing α} {s : Front} {ds : List Demand}
    (h : going.Keeps Right Ends s ds) (a : Action)
    (returned : Option (CallId × Except Trouble Reply)) :
    (going.receive a returned).Keeps Right Ends s ds := by
  cases going with
  | going x => cases returned <;> exact h
  | waiting id c next =>
    cases returned with
    | none => exact h
    | some r =>
      simp only [Standing.receive]
      split
      · exact h r.2
      · exact h

namespace World

/-- What was asked was right, and the routine keeps to that. -/
structure Keeps (Right : List Demand → Prop) (Ends : Front → List Demand → α → Prop)
    (w : World α) : Prop where
  right : Right (demands w.done)
  routine : w.standing.Keeps Right Ends w.house.front (demands w.done)

/-- An action keeps to what is right if what it asks is. -/
theorem Keeps.perform {a : Action} {ds : List Demand}
    (same : demands w.done ++ (a.call?.map (·.2)).toList = ds) (right : Right ds)
    (routine : w.standing.Keeps Right Ends w.house.front ds) : Keeps Right Ends (w.perform a) := by
  have asked : demands (w.perform a).done = ds := (demands_cons _ _).trans same
  refine ⟨asked ▸ right, ?_⟩
  change Standing.Keeps Right Ends (w.house.act a).house.front _ _
  rw [w.house.front_act, asked]
  exact routine.receive a _

/-- What others do asks nothing. -/
theorem Keeps.others (h : Keeps Right Ends w) {a : Action} (none : a.call? = none) :
    Keeps Right Ends (w.perform a) :=
  .perform (by rw [none]; exact List.append_nil _) h.right h.routine

theorem Keeps.step (h : Keeps Right Ends w) (step : Step allowed w w') : Keeps Right Ends w' := by
  have going {x : Routine α} (e : w.standing = .going x) :
      x.Keeps Right Ends w.house.front (demands w.done) := by
    have routine := h.routine
    rwa [e] at routine
  cases step with
  | look e => exact ⟨h.right, going e w.house rfl⟩
  | alter e aside =>
    obtain ⟨new, same, next⟩ := going e
    refine ⟨h.right, ?_⟩
    rw [same w.house rfl]
    exact next
  | @clear f next e name clears =>
    obtain ⟨new, same, keeps⟩ := going e
    have still : new = w.house.front :=
      (same w.house rfl).symm.trans ((congrArg House.front clears).trans (w.house.front_act _))
    rw [still] at keeps
    exact Keeps.others (w := { w with standing := .going next }) ⟨h.right, keeps⟩ rfl
  | rest e =>
    have keeps := going e
    exact ⟨h.right, keeps⟩
  | @call c next e id fresh =>
    obtain ⟨right, keeps⟩ := going e
    exact .perform (w := { w with standing := .waiting id c next })
      (by rw [Action.call?_begin]) right keeps
  | @job j _ _ _ does _ _ =>
    exact Keeps.others (w := { w with jobs := w.jobs.erase j }) { h with } does.call?_eq_none
  | feed _ _ _ => exact { h with }
  | event _ happens _ => exact h.others happens.call?_eq_none

theorem Keeps.of_reaches {x : Routine α} {h : House} (right : Right [])
    (keeps : x.Keeps Right Ends h.front []) (reach : Reaches allowed (.opening x h) w) :
    w.Keeps Right Ends := by
  induction reach with
  | refl => exact ⟨right, keeps⟩
  | tail _ step ih => exact ih.step step

/-- Where the routine has come to something, it has ended as it should. -/
theorem Keeps.ends (h : w.Keeps Right Ends) {a : α} (result : w.result? = some a) :
    Ends w.house.front (demands w.done) a := by
  have routine := h.routine
  unfold result? at result
  split at result
  · next b standing =>
    obtain rfl := Option.some.inj result
    rwa [standing] at routine
  · cases result

end World

end Keeps

end ToolHost

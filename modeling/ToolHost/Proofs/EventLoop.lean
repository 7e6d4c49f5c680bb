import Mathlib
import ToolHost.Proofs.Conducting
import ToolHost.Rehearsal.Stage

/-!
# The event loop

A routine has the program to itself until it waits, rests or ends. Then whatever is ready may run,
one thing at a time and in any order, and the world may act: children write and end, time passes,
the web answers. Nothing here says who comes first or when, so what holds of every run of the loop
hangs on no order and on no time.
-/
namespace ToolHost

/-- The call that an action begins. -/
def Action.begun? : Action → Option CallId
  | .begin id _ | .room _ (.begin id _) => some id
  | _ => none

/-- The process that an action brings into being. -/
def Action.newborn? : Action → Option Pid
  | .room _ (.launched _ (.ok b)) => some b.pid
  | .shot (.launched _ (.ok pid) _) => some pid
  | _ => none

/-- Whether a process was ever created in a house. -/
def House.Knows (h : House) (pid : Pid) : Prop :=
  (∃ name, pid ∈ (h.room name).pids) ∨ (h.shots.shot? pid).isSome

/-- What something that is ready does when it runs. A call that waits for a process to be created
is told what came of that. -/
inductive Job.Does (h : House) : Job → Action → Prop
  | created {name : SessionName} {id : CallId}
      (awaits : Rehearsal.Stage.awaitsBirth h name id = true)
      (outcome : Except SpawnFault Session.Birth) :
      Does h (.room name (.resume id)) (.room name (.launched id outcome))
  | resume {name : SessionName} {id : CallId}
      (awaits : Rehearsal.Stage.awaitsBirth h name id = false) :
      Does h (.room name (.resume id)) (.room name (.resume id))
  | relay (name : SessionName) (pid : Pid) :
      Does h (.room name (.relay pid)) (.room name (.relay pid))
  | notice (name : SessionName) (id : CallId) :
      Does h (.room name (.notice id)) (.room name (.wake id))
  | spawned {id : CallId} (awaits : h.shots.pending.any (·.id = id) = true)
      (outcome : Except SpawnFault Pid) :
      Does h (.shot (.resume id)) (.shot (.launched id outcome h.extra))
  | counted {id : CallId} (awaits : h.shots.pending.any (·.id = id) = false) :
      Does h (.shot (.resume id)) (.shot (.resume id))
  | reap (pid : Pid) : Does h (.shot (.reap pid)) (.shot (.reap pid))
  | forget (pid : Pid) : Does h (.shot (.forget pid)) (.shot (.forget pid))
  | count (id : CallId) : Does h (.shot (.count id)) (.shot (.count id))

/-- Whether what is ready is up to a child, which finds something on its input. -/
def Job.isOfChild : Job → Bool
  | .room _ (.input _ _) | .room _ (.inputEnd _) => true
  | _ => false

/-- What the world may do of its own accord. -/
inductive Happens (h : House) : Action → Prop
  | output {name : SessionName} {pid : Pid} {c : Session.Child}
      (child : (h.room name).child? pid = some c) (opened : c.outputClosed = false)
      (portion : Machine.Bytes) : Happens h (.room name (.output pid portion))
  | closeOutput {name : SessionName} {pid : Pid} {c : Session.Child}
      (child : (h.room name).child? pid = some c) (opened : c.outputClosed = false) :
      Happens h (.room name (.closeOutput pid))
  | exit {name : SessionName} {pid : Pid} {c : Session.Child}
      (child : (h.room name).child? pid = some c) (runs : c.hasEnded = false) (code : Int) :
      Happens h (.room name (.exit pid code))
  | wake {name : SessionName} {id : CallId} (waits : (h.room name).isInGrace id = true) :
      Happens h (.room name (.wake id))
  | drained {name : SessionName} {id : CallId} {c : Session.Caller}
      (caller : (h.room name).caller? id = some c) (waits : c.phase = .draining) (isBroken : Bool) :
      Happens h (.room name (.drained id isBroken))
  | shotExit {pid : Pid} {x : OneShot.Shot} (child : h.shots.shot? pid = some x)
      (runs : x.code = none) (code : Int) : Happens h (.shot (.exit pid code))
  | received {id : CallId} {o : Install.Order} (waits : h.installs.lookup id = some o)
      (asked : List String) (outcome : Http.Outcome) (refusal : Install.Refusal) :
      Happens h (.received id asked outcome refusal)

instance (a : Action) (c : Call) : Decidable (a.Answers c) :=
  match c with
  | .session _ _ => inferInstanceAs (Decidable (a.session?.isSome = true))
  | .oneShot _ _ _ | .awaitOneShots | .install _ _ _ =>
    decidable_of_iff (a.session?.isNone = true) Option.isNone_iff_eq_none

/-- How far a routine is when an action has brought a call to its end. A call is answered where it
was made. -/
def Standing.receive {α : Type} (s : Standing α) (a : Action)
    (returned : Option (CallId × Except Trouble Reply)) : Standing α :=
  match s, returned with
  | .waiting id c next, some (ended, reply) =>
    if ended = id ∧ a.Answers c then .going (next reply) else .waiting id c next
  | s, _ => s

/-- A routine in its house, with what is ready to run there. -/
structure World (α : Type) where
  /-- What was done in the house, the latest first. -/
  done : List Deed := []
  house : House
  jobs : List Job := []
  standing : Standing α

namespace World

variable {α : Type}

/-- A routine begins. -/
def opening (x : Routine α) (h : House) : World α := { house := h, standing := .going x }

/-- An action is carried out in the house. -/
def perform (w : World α) (a : Action) : World α :=
  let o := w.house.act a
  { done := ⟨w.house, a⟩ :: w.done
    house := o.house
    jobs := w.jobs ++ o.jobs
    standing := w.standing.receive a o.returned }

/-- One step of the loop, where the world does only what it is allowed to. -/
inductive Step (allowed : Action → Prop) (w : World α) : World α → Prop
  | look {next : House → Routine α} (going : w.standing = .going (.look next)) :
      Step allowed w { w with standing := .going (next w.house) }
  | alter {f : House → House} {next : Routine α} (going : w.standing = .going (.alter f next))
      (aside : w.house.Aside (f w.house)) :
      Step allowed w { w with house := f w.house, standing := .going next }
  /-- What a routine does on the spot in a room is an action there. -/
  | clear {f : House → House} {next : Routine α} (going : w.standing = .going (.alter f next))
      {name : SessionName} (clears : f w.house = (w.house.act (.room name .clear)).house) :
      Step allowed w ({ w with standing := .going next }.perform (.room name .clear))
  | rest {r : Rest} {next : Routine α} (going : w.standing = .going (.rest r next)) :
      Step allowed w { w with standing := .going next }
  | call {c : Call} {next : Except Trouble Reply → Routine α}
      (going : w.standing = .going (.call c next)) {id : CallId}
      (fresh : id ∉ w.done.filterMap (·.action.begun?)) :
      Step allowed w ({ w with standing := .waiting id c next }.perform (.begin id c))
  | job {j : Job} {a : Action} (yields : w.standing.yields = true) (ready : j ∈ w.jobs)
      (does : j.Does w.house a) (fresh : ∀ pid, a.newborn? = some pid → ¬ w.house.Knows pid)
      (may : allowed a) :
      Step allowed w ({ w with jobs := w.jobs.erase j }.perform a)
  | feed {j : Job} (yields : w.standing.yields = true) (ready : j ∈ w.jobs)
      (ofChild : j.isOfChild = true) : Step allowed w { w with jobs := w.jobs.erase j }
  | event {a : Action} (yields : w.standing.yields = true) (happens : Happens w.house a)
      (may : allowed a) : Step allowed w (w.perform a)

/-- What the loop may come to. -/
abbrev Reaches (allowed : Action → Prop) : World α → World α → Prop :=
  Relation.ReflTransGen (Step allowed)

/-- What the routine has come to, if it has ended. -/
def result? (w : World α) : Option α :=
  match w.standing with
  | .going (.done a) => some a
  | _ => none

/-! ## Steps -/

section Steps

variable {allowed : Action → Prop} {w w' : World α}

theorem Step.of_look {next : House → Routine α} (going : w.standing = .going (.look next))
    (step : Step allowed w w') : w' = { w with standing := .going (next w.house) } := by
  cases step with
  | look also =>
    obtain rfl : next = _ := by simpa using going.symm.trans also
    rfl
  | alter also => cases going.symm.trans also
  | clear also => cases going.symm.trans also
  | rest also => cases going.symm.trans also
  | call also => cases going.symm.trans also
  | _ yields => rw [going] at yields; cases yields

theorem Step.of_alter {f : House → House} {next : Routine α}
    (going : w.standing = .going (.alter f next)) (step : Step allowed w w') :
    (w.house.Aside (f w.house) ∧ w' = { w with house := f w.house, standing := .going next }) ∨
      ∃ name, f w.house = (w.house.act (.room name .clear)).house ∧
        w' = { w with standing := .going next }.perform (.room name .clear) := by
  cases step with
  | look also => cases going.symm.trans also
  | alter also aside =>
    obtain ⟨rfl, rfl⟩ : f = _ ∧ next = _ := by simpa using going.symm.trans also
    exact .inl ⟨aside, rfl⟩
  | clear also clears =>
    obtain ⟨rfl, rfl⟩ : f = _ ∧ next = _ := by simpa using going.symm.trans also
    exact .inr ⟨_, clears, rfl⟩
  | rest also => cases going.symm.trans also
  | call also => cases going.symm.trans also
  | _ yields => rw [going] at yields; cases yields

theorem Step.of_call {c : Call} {next : Except Trouble Reply → Routine α}
    (going : w.standing = .going (.call c next)) (step : Step allowed w w') :
    ∃ id, id ∉ w.done.filterMap (·.action.begun?) ∧
      w' = { w with standing := .waiting id c next }.perform (.begin id c) := by
  cases step with
  | look also => cases going.symm.trans also
  | alter also => cases going.symm.trans also
  | clear also => cases going.symm.trans also
  | rest also => cases going.symm.trans also
  | call also fresh =>
    obtain ⟨rfl, rfl⟩ : c = _ ∧ next = _ := by simpa using going.symm.trans also
    exact ⟨_, fresh, rfl⟩
  | _ yields => rw [going] at yields; cases yields

/-- What may be done while the routine waits or has ended. -/
inductive Turn (allowed : Action → Prop) (w : World α) : World α → Prop
  | job {j : Job} {a : Action} (ready : j ∈ w.jobs) (does : j.Does w.house a)
      (fresh : ∀ pid, a.newborn? = some pid → ¬ w.house.Knows pid) (may : allowed a) :
      Turn allowed w ({ w with jobs := w.jobs.erase j }.perform a)
  | feed {j : Job} (ready : j ∈ w.jobs) (ofChild : j.isOfChild = true) :
      Turn allowed w { w with jobs := w.jobs.erase j }
  | event {a : Action} (happens : Happens w.house a) (may : allowed a) :
      Turn allowed w (w.perform a)

/-- A routine that waits or has ended does nothing itself. -/
theorem Step.of_idle
    (idle : (∃ id c next, w.standing = .waiting id c next) ∨ ∃ a, w.standing = .going (.done a))
    (step : Step allowed w w') : Turn allowed w w' := by
  have apart {x : Routine α} (going : w.standing = .going x) : ∃ a, x = .done a := by
    rcases idle with ⟨id, c, next, also⟩ | ⟨a, also⟩
    · cases going.symm.trans also
    · cases going.symm.trans also
      exact ⟨a, rfl⟩
  cases step with
  | look going => obtain ⟨a, h⟩ := apart going; cases h
  | alter going => obtain ⟨a, h⟩ := apart going; cases h
  | clear going => obtain ⟨a, h⟩ := apart going; cases h
  | rest going => obtain ⟨a, h⟩ := apart going; cases h
  | call going => obtain ⟨a, h⟩ := apart going; cases h
  | job _ ready does fresh may => exact .job ready does fresh may
  | feed _ ready ofChild => exact .feed ready ofChild
  | event _ happens may => exact .event happens may

end Steps

/-! ## Runs -/

/-- Nobody is told to give up. -/
theorem isCancel_of_does {h : House} {j : Job} {a : Action} (does : j.Does h a) :
    a.isCancel = false := by
  cases does <;> rfl

theorem isCancel_of_happens {h : House} {a : Action} (happens : Happens h a) :
    a.isCancel = false := by
  cases happens <;> rfl

end World

end ToolHost

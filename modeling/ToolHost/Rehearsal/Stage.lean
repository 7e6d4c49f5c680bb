import ToolHost.Rehearsal.Agenda
import ToolHost.Rehearsal.Script
import ToolHost.Routine

/-!
# The stage

A rehearsal runs routines in a world that follows scripts. What is ready runs in the order in which
it became so, the answers of children included, and time passes only when nobody can do anything
without it.
-/
namespace ToolHost.Rehearsal

open Machine (Bytes)

/-- A child that follows a script. -/
structure Puppet where
  pid : Pid
  script : Script
  /-- The session whose child it is, if it is no single command. -/
  session : Option SessionName
  /-- Input that it has not answered yet. -/
  input : Bytes := []

/-- What is to be played. -/
inductive Part (α : Type)
  | routine (r : Conduct α)
  /-- A child writes of its own accord, and ends if there is a code. `tell` says what it means
  whether the child was there to do so. -/
  | child (pid : Pid) (out : List Bytes) (code : Option Int) (tell : Bool → α)

/-- What can run. -/
inductive Work (α : Type)
  | job (j : Job)
  | routine (number : Nat) (r : Routine (Except Trouble α))
  /-- The time of a call of a room is over. -/
  | wake (name : SessionName) (id : CallId)
  /-- The time that a child took is over. -/
  | puppet (pid : Pid) (out : List Bytes) (code : Int)
  /-- A child does what it is to do as the part of the given number. -/
  | cue (number : Nat) (pid : Pid) (out : List Bytes) (code : Option Int) (tell : Bool → α)

/-- How a part begins. -/
def Part.opening {α : Type} (number : Nat) : Part α → Work α
  | .routine r => .routine number r
  | .child pid out code tell => .cue number pid out code tell

structure Waiting (α : Type) where
  id : CallId
  number : Nat
  next : Except Trouble Reply → Routine (Except Trouble α)

structure Stage (α : Type) where
  house : House
  /-- The scripts of the next children. -/
  scripts : List Script := []
  /-- The script of a session's child when there is no other. -/
  sessionScript : Script := .session
  /-- The script of a single command's child when there is no other. -/
  oneShotScript : Script := .oneShot
  network : Http.Network := fun _ => .response { status := 404 }
  puppets : List Puppet := []
  ready : List (Work α) := []
  agenda : Agenda (Work α) := {}
  clock : Seconds := .zero
  waiting : List (Waiting α) := []
  /-- Routines that let everything else run first. -/
  calm : List (Nat × Routine (Except Trouble α)) := []
  results : List (Nat × Except Trouble α) := []
  nextCall : CallId := 1
  nextPid : Pid := 1001

namespace Stage

variable {α : Type}

def push (s : Stage α) (w : Work α) : Stage α := { s with ready := s.ready ++ [w] }

def puppet? (s : Stage α) (pid : Pid) : Option Puppet := s.puppets.find? (·.pid = pid)

/-- What happened since an earlier state, in order. -/
def news (before after : House) : List Happening :=
  (after.trace.take (after.trace.length - before.trace.length)).reverse

/-- Lets something happen after some time. -/
def schedule (s : Stage α) (length : Seconds) (w : Work α) : Stage α :=
  { s with agenda := s.agenda.insert (s.clock.after length) w }

/-- Lets something happen after some time, or as soon as possible. -/
def pushAfter (s : Stage α) (length : Seconds) (w : Work α) : Stage α :=
  if length.isPositive then s.schedule length w else s.push w

/-- Takes over what an action brought about. -/
def absorb (s : Stage α) (o : Outcome) : Stage α :=
  let s := { s with house := o.house, ready := s.ready ++ o.jobs.map .job }
  o.alarms.foldl (fun s (name, id, length) => s.schedule length (.wake name id)) s

/-- Makes a call. The web answers at once. -/
def issue (s : Stage α) (c : Call) : CallId × Stage α × Option (Except Trouble Reply) :=
  let id := s.nextCall
  let o := s.house.act (.begin id c)
  let s := { s with nextCall := id + 1 }.absorb o
  match o.returned, c with
  | none, .install _ _ (.scalar (.text url)) =>
    let (asked, outcome) := Http.fetch s.network url
    let o := s.house.act (.received id asked outcome none)
    (id, s.absorb o, o.returned.map (·.2))
  | r, _ => (id, s, r.map (·.2))

/-- Runs a routine until it waits or ends. -/
def advance (s : Stage α) (number : Nat) : Routine (Except Trouble α) → Stage α
  | .done a => { s with results := s.results ++ [(number, a)] }
  | .look next => s.advance number (next s.house)
  | .alter f next => { s with house := f s.house }.advance number next
  | .call c next =>
    match s.issue c with
    | (_, s, some reply) => s.advance number (next reply)
    | (id, s, none) => { s with waiting := s.waiting ++ [⟨id, number, next⟩] }
  | .rest .calm next => { s with calm := s.calm ++ [(number, next)] }
  | .rest (.sleep length) next => s.pushAfter length (.routine number next)

/-- Hands a reply to the routine that waits for it. -/
def handOver (s : Stage α) (returned : Option (CallId × Except Trouble Reply)) : Stage α :=
  match returned with
  | none => s
  | some (id, reply) =>
    match s.waiting.find? (·.id = id) with
    | none => s
    | some w =>
      { s with waiting := s.waiting.filter (·.id != id) }.advance w.number (w.next reply)

def perform (s : Stage α) (a : Action) : Stage α :=
  let o := s.house.act a
  (s.absorb o).handOver o.returned

/-! Children. -/

/-- Whether a child runs. -/
def isRunning (s : Stage α) (p : Puppet) : Bool :=
  match p.session with
  | some name => (((s.house.room name).child? p.pid).map fun c => !c.hasEnded).getD false
  | none => ((s.house.shots.shot? p.pid).map fun x => x.code.isNone).getD false

def write (s : Stage α) (p : Puppet) (out : List Bytes) : Stage α :=
  match p.session with
  | some name => out.foldl (fun s b => s.perform (.room name (.output p.pid b))) s
  | none => s

def finish (s : Stage α) (p : Puppet) (code : Int) : Stage α :=
  match p.session with
  | some name => s.perform (.room name (.exit p.pid code))
  | none => s.perform (.shot (.exit p.pid code))

/-- A child writes and ends, if it still runs. -/
def finishWith (s : Stage α) (pid : Pid) (out : List Bytes) (code : Int) : Stage α :=
  match s.puppet? pid with
  | none => s
  | some p => if s.isRunning p then (s.write p out).finish p code else s

/-- A child answers lines until it ends. -/
def answerLines (s : Stage α) (p : Puppet) : List Bytes → Stage α
  | [] => s
  | line :: rest =>
    if !s.isRunning p then s
    else
      let a := p.script.answer line
      let s := s.write p a.out
      match a.exit with
      | some code => s.finish p code
      | none => s.answerLines p rest

/-- A child answers a piece of its input, line by line. -/
def answerInput (s : Stage α) (pid : Pid) (piece : Bytes) : Stage α :=
  match s.puppet? pid with
  | none => s
  | some p =>
    let (lines, rest) := completeLines (p.input ++ piece)
    let puppets := s.puppets.map fun q => if q.pid = pid then { q with input := rest } else q
    { s with puppets }.answerLines p lines

/-- A child answers the end of its input. -/
def answerEnd (s : Stage α) (pid : Pid) : Stage α :=
  match (s.puppet? pid).bind (·.script.farewell) with
  | none => s
  | some f => s.pushAfter f.delay (.puppet pid f.out f.code)

/-- The script of the next child. -/
def draw (s : Stage α) (standard : Script) : Script × Stage α :=
  match s.scripts with
  | [] => (standard, s)
  | x :: rest => (x, { s with scripts := rest })

/-- Puts a child on stage that was just created. -/
def appear (s : Stage α) (x : Script) (session : Option SessionName) : Puppet × Stage α :=
  let p : Puppet := { pid := s.nextPid, script := x, session }
  let s := { s with puppets := s.puppets ++ [p], nextPid := s.nextPid + 1 }
  match x.exit with
  | none => (p, s)
  | some code => (p, s.pushAfter x.delay (.puppet p.pid [] code))

/-- Creates the child that a call of a room waits for. -/
def spawnSession (s : Stage α) (name : SessionName) (id : CallId) : Stage α :=
  let (x, s) := s.draw s.sessionScript
  match x.fault with
  | some fault => s.perform (.room name (.launched id (.error fault)))
  | none =>
    let (p, s) := s.appear x (some name)
    let o := s.house.act (.room name (.launched id (.ok ⟨p.pid, x.traits⟩)))
    ((s.absorb o).write p x.out).handOver o.returned

/-- Creates the child that a one-shot command waits for. -/
def spawnOneShot (s : Stage α) (id : CallId) : Stage α :=
  let (x, s) := s.draw s.oneShotScript
  let extra := s.house.extra
  match x.fault with
  | some fault => s.perform (.shot (.launched id (.error fault) extra))
  | none =>
    let (p, s) := s.appear x none
    s.perform (.shot (.launched id (.ok p.pid) extra))

/-! Running. -/

/-- Whether a call of a room waits for its process to be created. -/
def awaitsBirth (h : House) (name : SessionName) (id : CallId) : Bool :=
  match (h.room name).caller? id with
  | some ⟨_, _, _, .spawning _, .woken⟩ => true
  | _ => false

def runJob (s : Stage α) : Job → Stage α
  | .room name (.resume id) =>
    if awaitsBirth s.house name id then s.spawnSession name id
    else s.perform (.room name (.resume id))
  | .room name (.relay pid) => s.perform (.room name (.relay pid))
  | .room name (.notice id) => s.perform (.room name (.wake id))
  | .room _ (.input pid piece) => s.answerInput pid piece
  | .room _ (.inputEnd pid) => s.answerEnd pid
  | .shot (.resume id) =>
    if s.house.shots.pending.any (·.id = id) then s.spawnOneShot id
    else s.perform (.shot (.resume id))
  | .shot (.reap pid) => s.perform (.shot (.reap pid))
  | .shot (.forget pid) => s.perform (.shot (.forget pid))
  | .shot (.count id) => s.perform (.shot (.count id))

def runWork (s : Stage α) : Work α → Stage α
  | .job j => s.runJob j
  | .routine number r => s.advance number r
  | .wake name id => s.perform (.room name (.wake id))
  | .puppet pid out code => s.finishWith pid out code
  | .cue number pid out code tell =>
    match (s.puppet? pid).filter s.isRunning with
    | none => { s with results := s.results ++ [(number, .ok (tell false))] }
    | some p =>
      let s := s.write p out
      let s := match code with | some code => s.finish p code | none => s
      { s with results := s.results ++ [(number, .ok (tell true))] }

/-- Whether an entry of the agenda still matters. -/
def matters (h : House) : Work α → Bool
  | .wake name id => (h.room name).isInGrace id
  | _ => true

/-- Makes ready what is due. -/
def ring (s : Stage α) : Stage α :=
  let (xs, agenda) := s.agenda.due s.clock (s.agenda.heap.size)
  { s with ready := s.ready ++ xs, agenda }

/-- The time of the next entry that matters. -/
def nextTime? (s : Stage α) : Stage α × Option Seconds :=
  let agenda := s.agenda.dropStale (matters s.house) s.agenda.heap.size
  ({ s with agenda }, agenda.head?.map (·.1))

/-- Makes something ready when nothing is: what is due, a routine that let everything run first,
or, if time may pass, what comes next. There may be nothing. -/
def rouse (s : Stage α) (mayWait : Bool) : Option (Stage α) :=
  let (s, next) := s.nextTime?
  if next.any (·.isDue s.clock) then some s.ring
  else
    match s.calm with
    | (number, r) :: rest => some ({ s with calm := rest }.push (.routine number r))
    | [] =>
      match next with
      | some t => if mayWait then some { s with clock := s.clock.latest t }.ring else none
      | none => none

/-- One round: everything runs that was ready at its start. -/
def round (s : Stage α) (mayWait : Bool) : Option (Stage α) :=
  if s.ready.isEmpty then s.rouse mayWait
  else
    let s := s.ring
    some (s.ready.foldl runWork { s with ready := [] })

/-- Whether the routines below a number have ended. -/
def haveEnded (s : Stage α) (count : Nat) : Bool :=
  (List.range count).all fun n => s.results.any (·.1 = n)

/-- Runs rounds until the routines have ended; then, if asked for, as long as something can run
without time passing. -/
def run (count : Nat) (comesToRest : Bool) : Nat → Stage α → Stage α
  | 0, s => s
  | fuel + 1, s =>
    let isOver := s.haveEnded count
    if isOver && !comesToRest then s
    else
      match s.round (!isOver) with
      | some s => run count comesToRest fuel s
      | none => s

/-- The most rounds of a rehearsal. -/
def roundLimit : Nat := 1000000

/-- Plays parts side by side, in the order in which they begin, until all have ended, and then
maybe until everything has come to rest. Gives what they came to; one that never ends comes to
nothing. -/
def play (s : Stage α) (parts : List (Part α)) (comesToRest : Bool) :
    Stage α × List (Option (Except Trouble α)) :=
  let numbered := (List.range parts.length).zip parts
  let s := { s with results := [], ready := s.ready ++ numbered.map fun (n, p) => p.opening n }
  let s := run parts.length comesToRest roundLimit s
  (s, numbered.map fun (n, _) => s.results.lookup n)

end Stage

end ToolHost.Rehearsal

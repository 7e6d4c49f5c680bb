import ToolHost.Session.Room

/-!
# Steps of a room

Whatever happens in a room runs until every call in it waits again. The order of what it wakes is
the order in which that becomes ready, so a room is a function of the order of its actions.

A call that starts, stops or restarts goes through the latch. Inside, it takes the record of the
old process away before anything else, gives that process time if it has some, kills it, ends its
relay, and only then creates a new one and records it. A line takes the latch only if it is closed,
and lets it go before it is written.
-/
namespace ToolHost.Session

open Machine (Path)

/-- A room in the middle of a step, with what the step has brought about so far. -/
structure Turn where
  room : Room
  /-- What has become ready, in order. -/
  jobs : List Job := []
  /-- Calls to be woken after some time, in nanoseconds. -/
  alarms : List (CallId × Seconds) := []
  /-- What happened, the latest first. -/
  trace : List Happening := []
  /-- The call that ended. -/
  returned : Option (CallId × Ending) := none

/-- A call inside the latch. -/
structure Visit where
  id : CallId
  request : Request
  latch : Nat

namespace Turn

def say (t : Turn) (h : Happening) : Turn := { t with trace := h :: t.trace }

def ready (t : Turn) (j : Job) : Turn := { t with jobs := t.jobs ++ [j] }

def child (t : Turn) (pid : Pid) : Child := t.room.child pid

def setChild (t : Turn) (c : Child) : Turn := { t with room := t.room.setChild c }

def finish (t : Turn) (id : CallId) (e : Ending) : Turn := { t with returned := some (id, e) }

/-- Lets a call wait. -/
def park (t : Turn) (c : Caller) : Turn :=
  { t with room := { t.room with callers := t.room.callers ++ [c] } }

def parkIn (t : Turn) (v : Visit) (phase : Phase) (wake : Wake) : Turn :=
  t.park ⟨v.id, v.request, some v.latch, phase, wake⟩

/-- Wakes the calls that sleep for something. -/
def wakeCallers (t : Turn) (isMeant : Phase → Bool) : Turn :=
  let sleepers := t.room.callers.filter fun c => c.wake = .asleep && isMeant c.phase
  let callers := t.room.callers.map fun c =>
    if c.wake = .asleep && isMeant c.phase then { c with wake := .woken } else c
  { t with
    room := { t.room with callers }
    jobs := t.jobs ++ sleepers.map fun c => .resume c.id }

/-- Lets the call at the head of a latch's queue in, if there is one. -/
def invite (t : Turn) (n : Nat) (l : Latch × Option CallId) : Turn :=
  let t := { t with room := t.room.setLatch n l.1 }
  match l.2 with
  | none => t
  | some id =>
    let callers := t.room.callers.map fun c => if c.id = id then { c with wake := .woken } else c
    { t with room := { t.room with callers } }.ready (.resume id)

/-- A call goes away from the latch. The latch is given up with the last call if no session is
recorded. -/
def depart (t : Turn) (id : CallId) (next : Turn → Turn) : Turn :=
  match t.room.users with
  | none => t.finish id (.failed (.breakdown .missingKey))
  | some n =>
    if n ≠ 1 then next { t with room := { t.room with users := some (n - 1) } }
    else
      let t := { t with room := { t.room with users := none } }
      if t.room.recorded.isSome then next t
      else if t.room.latch.isNone then t.finish id (.failed (.breakdown .missingKey))
      else next { t with room := { t.room with latch := none } }

/-- A call takes the latch. -/
def take (t : Turn) (v : Visit) : Turn :=
  { t with room := t.room.setLatch v.latch (t.room.latchAt v.latch).enter }.say
    (.entered t.room.name v.id t.room.recorded)

/-- A call gives the latch back. -/
def release (t : Turn) (v : Visit) : Turn :=
  (t.say (.left t.room.name v.id t.room.recorded)).invite v.latch
    (t.room.latchAt v.latch).release

/-- A call leaves the inside of the latch. -/
def leave (t : Turn) (v : Visit) (next : Turn → Turn) : Turn := (t.release v).depart v.id next

/-- A call leaves the latch and ends. -/
def conclude (t : Turn) (v : Visit) (e : Ending) : Turn := t.leave v (·.finish v.id e)

/-- Puts a process that may have news for its relay back. -/
def rouse (t : Turn) (c : Child) : Turn :=
  let (c, isWoken) := c.rouse
  let t := t.setChild c
  if isWoken then t.ready (.relay c.pid) else t

/-- A process ends. -/
def endChild (t : Turn) (c : Child) (code : Int) : Turn :=
  (t.rouse (c.finish code)).wakeCallers (· = .reaping c.pid)

/-- Closes the input of a process, if it has one that is open. -/
def closeInput (t : Turn) (pid : Pid) : Turn :=
  let c := t.child pid
  if c.traits.hasInput && !c.inputClosed then
    ((t.setChild { c with inputClosed := true }).say (.inputClosed pid)).ready (.inputEnd pid)
  else t

/-! Starting and stopping, inside the latch. -/

/-- Creates a process, if there is something to launch. -/
def launch (t : Turn) (s : Setting) (v : Visit) : Turn :=
  match s.command with
  | .error e => t.conclude v (.failed e)
  | .ok argv => (t.parkIn v (.spawning argv) .woken).ready (.resume v.id)

/-- Goes on when no session is recorded any more. -/
def proceed (t : Turn) (s : Setting) (v : Visit) : Turn :=
  match v.request with
  | .start _ | .restart _ => t.launch s v
  | .stop | .send _ => t.conclude v .done

/-- Goes on when a stopped process and its relay have ended. -/
def stopped (t : Turn) (s : Setting) (v : Visit) (pid : Pid) : Turn :=
  ((t.closeInput pid).say (.stopped t.room.name pid)).proceed s v

/-- Ends the relay of a process that has ended. -/
def join (t : Turn) (s : Setting) (v : Visit) (pid : Pid) : Turn :=
  let c := t.child pid
  if c.relay.isDone then t.stopped s v pid
  else
    let (c, wasAsleep) := c.cancelRelay
    let t := t.setChild c
    (if wasAsleep then t.ready (.relay pid) else t).parkIn v (.joining pid) .asleep

/-- Kills a process, unless it has ended. -/
def kill (t : Turn) (s : Setting) (v : Visit) (pid : Pid) : Turn :=
  let c := t.child pid
  if c.hasEnded then t.join s v pid
  else
    match c.traits.onKill with
    | .dies => ((t.say (.killed pid)).endChild c (-9)).join s v pid
    | .gone code => ((t.say (.gone pid code)).endChild c code).join s v pid
    | .lingers => (t.say (.killed pid)).parkIn v (.reaping pid) .asleep

/-- Takes away the record of a process, whose session counts as stopped from now on. -/
def pop (t : Turn) (pid : Pid) : Turn :=
  { t with
    room := { t.room with recorded := none }.setChild { t.child pid with isStopped := true } }

/-- Stops the recorded session, if there is one. A process that is to be replaced, or that has
ended already, has time for what it has left to read and to show. -/
def stop (t : Turn) (s : Setting) (v : Visit) (isReplaced : Bool) : Turn :=
  match t.room.recorded with
  | none => t.proceed s v
  | some pid =>
    let t := t.pop pid
    let c := t.child pid
    if (isReplaced || c.hasEnded) && s.grace.length.isPositive then
      let t := t.closeInput pid
      if c.relay.isDone then t.kill s v pid
      else
        { t with alarms := t.alarms ++ [(v.id, s.grace.length)] }.parkIn v (.grace pid) .asleep
    else t.kill s v pid

/-- Starts a session, unless one is live. A record of a process that has ended is taken away
first. -/
def start (t : Turn) (s : Setting) (v : Visit) : Turn :=
  match t.room.recorded with
  | none => t.launch s v
  | some pid =>
    if (t.child pid).isLive then
      (t.say (.alreadyLive t.room.name pid)).conclude v (.session (t.room.session pid))
    else t.stop s v false

/-- Records the session of a new process. -/
def record (t : Turn) (s : Setting) (v : Visit) (dir : Path) (argv : List String) (b : Birth) :
    Turn :=
  let t := { t with room := t.room.adopt dir b }.say (.spawned true b.pid argv dir.text s.extra)
  let t := (t.ready (.relay b.pid)).say (.started t.room.name b.pid dir.text)
  t.conclude v (.session (t.room.session b.pid))

/-! Lines. -/

/-- Writes a line to the live session. -/
def deliver (t : Turn) (id : CallId) (line : String) : Turn :=
  let refused : Ending := .failed (.failure (.noActiveSession t.room.name))
  match t.room.live? with
  | none => t.finish id refused
  | some session =>
    let c := t.child session.pid
    if !c.traits.hasInput then t.finish id refused
    else
      let piece := Text.Utf8.encode (line ++ "\n")
      let t := (t.say (.wrote id c.pid piece)).ready (.input c.pid piece)
      match c.traits.onWrite with
      | .accepted => (t.say (.sent t.room.name line)).finish id .done
      | .broken => t.finish id refused
      | .blocked => t.park ⟨id, .send line, none, .draining, .asleep⟩

/-- A call comes in. A line has nothing to do inside. -/
def enter (t : Turn) (s : Setting) (v : Visit) : Turn :=
  let t := t.take v
  match v.request with
  | .start _ => t.start s v
  | .stop => t.stop s v false
  | .restart _ => t.stop s v true
  | .send line => t.leave v (·.deliver v.id line)

/-- A call joins the queue of the latch. -/
def wait (t : Turn) (v : Visit) : Turn :=
  { t with room := t.room.setLatch v.latch ((t.room.latchAt v.latch).wait v.id) }.parkIn v
    .queued .asleep

/-- A call comes to the latch. -/
def approach (t : Turn) (s : Setting) (id : CallId) (request : Request) : Turn :=
  let v : Visit := ⟨id, request, t.room.latchNumber⟩
  let t := { t with room := t.room.knock }.say (.approached t.room.name id)
  if (t.room.latchAt v.latch).isOpen then t.enter s v else t.wait v

/-- A call begins. -/
def begin (t : Turn) (s : Setting) (id : CallId) (request : Request) : Turn :=
  match request with
  | .send line =>
    match t.room.latch with
    | some n => if (t.room.latchAt n).isHeld then t.approach s id request else t.deliver id line
    | none => t.deliver id line
  | _ => t.approach s id request

/-! Calls that go on. -/

/-- A call leaves the queue of the latch. -/
def quit (t : Turn) (v : Visit) : Turn :=
  { t with room := t.room.setLatch v.latch ((t.room.latchAt v.latch).quit v.id) }

/-- A call at the head of the queue comes in, or gives up and lets the next one in. -/
def unqueue (t : Turn) (s : Setting) (v : Visit) (wake : Wake) : Turn :=
  let t := t.quit v
  match wake with
  | .interrupted =>
    let l := t.room.latchAt v.latch
    let t := if l.isHeld then t else t.invite v.latch l.invite
    t.depart v.id (·.finish v.id .abandoned)
  | _ => t.enter s v

/-- A call inside the latch goes on. -/
def advance (t : Turn) (s : Setting) (v : Visit) (phase : Phase) (wake : Wake) : Turn :=
  match phase, wake with
  | .queued, _ => t.unqueue s v wake
  | .joining pid, _ => t.stopped s v pid
  | _, .interrupted => t.conclude v .abandoned
  | .grace pid, _ =>
    let t := if (t.child pid).relay.isDone then t
      else t.say (.outlasted t.room.name s.grace.text)
    t.kill s v pid
  | .reaping pid, _ => t.join s v pid
  | _, _ => t.conclude v .done

/-- Takes a call that waits out of the list of those. -/
def unpark (t : Turn) (id : CallId) : Turn :=
  { t with room := { t.room with callers := t.room.callers.filter (·.id != id) } }

/-- A call goes on. One that is asleep does not, nor does one that needs to be told which process
was created. -/
def resume (t : Turn) (s : Setting) (id : CallId) : Turn :=
  match t.room.caller? id with
  | none => t
  | some c =>
    match c.latch, c.phase, c.wake with
    | _, _, .asleep => t
    | _, .spawning _, .woken => t
    | none, _, _ => (t.unpark id).finish id .abandoned
    | some n, phase, wake => (t.unpark id).advance s ⟨id, c.request, n⟩ phase wake

/-- A call that waited for a process to be created goes on. -/
def launched (t : Turn) (s : Setting) (id : CallId) (outcome : Except SpawnFault Birth) : Turn :=
  match t.room.caller? id with
  | some ⟨_, request, some n, .spawning argv, wake⟩ =>
    let t := t.unpark id
    let v : Visit := ⟨id, request, n⟩
    let dir : Path := match request with | .start d | .restart d => d | _ => ⟨.here, []⟩
    match wake, outcome with
    | .interrupted, _ => t.conclude v .abandoned
    | _, .error fault =>
      (t.say (.spawnFailed argv dir.text)).conclude v (.failed (fault.trouble argv dir.text))
    | _, .ok b => t.record s v dir argv b
  | _ => t

/-- Wakes a call in its grace period. -/
def wake (t : Turn) (id : CallId) : Turn :=
  match t.room.caller? id with
  | some c =>
    if t.room.isInGrace id then
      { t with room := t.room.setCaller { c with wake := .woken } }.ready (.resume id)
    else t
  | none => t

/-- Tells a call to give up. One that waits for a relay to end goes on all the same. -/
def cancel (t : Turn) (id : CallId) : Turn :=
  match t.room.caller? id with
  | none => t
  | some c =>
    match c.phase, c.wake with
    | .joining _, _ => t
    | .queued, .asleep =>
      let r := t.room.setCaller { c with wake := .interrupted }
      let n := c.latch.getD 0
      { t with room := r.setLatch n ((r.latchAt n).withdraw id) }.ready (.resume id)
    | _, .asleep =>
      { t with room := t.room.setCaller { c with wake := .interrupted } }.ready (.resume id)
    | _, _ => { t with room := t.room.setCaller { c with wake := .interrupted } }

/-- A line that had to wait is taken, or not. -/
def drained (t : Turn) (id : CallId) (isBroken : Bool) : Turn :=
  match t.room.caller? id with
  | some ⟨_, .send line, _, .draining, .asleep⟩ =>
    let t := t.unpark id
    if isBroken then t.finish id (.failed (.failure (.noActiveSession t.room.name)))
    else (t.say (.sent t.room.name line)).finish id .done
  | _ => t

/-! The relay. -/

/-- Puts text on display, if there is any. -/
def append (t : Turn) (pid : Pid) (text : Terminal.StyledText) : Turn :=
  if text.plain.isEmpty then t
  else
    { t with room := { t.room with display := some (t.room.display.getD [] ++ [text]) } }.say
      (.appended t.room.name pid text)

/-- The relay reads and shows one portion. -/
def relayPortion (t : Turn) (pid : Pid) (portion : Machine.Bytes) : Turn :=
  let c := t.child pid
  let (text, relay) := c.relay.feed portion
  ((t.setChild { c with relay }).say (.produced t.room.name pid portion)).append pid text

/-- The relay reads portions until there is one that cannot be read; the answer tells whether all
could be. -/
def relayPortions (t : Turn) (pid : Pid) : List Machine.Bytes → Turn × Bool
  | [] => (t, true)
  | portion :: rest =>
    if (t.child pid).relay.canRead portion then (t.relayPortion pid portion).relayPortions pid rest
    else (t.say (.produced t.room.name pid portion), false)

/-- The relay reads all that is there. -/
def relayAll (t : Turn) (pid : Pid) : Turn × Bool :=
  let c := t.child pid
  (t.setChild { c with output := [] }).relayPortions pid (c.output.flatMap portions)

def setProgress (t : Turn) (pid : Pid) (p : Progress) : Turn :=
  let c := t.child pid
  t.setChild { c with relay := { c.relay with progress := p } }

/-- The relay ends. A call that waits for just that goes on; one that waits for it or for its time
to run out is told first. -/
def endRelay (t : Turn) (pid : Pid) : Turn :=
  let t := t.setProgress pid .done
  let told := t.room.callers.filter fun c => c.phase = .grace pid && c.wake = .asleep
  let t := { t with jobs := t.jobs ++ told.map fun (c : Caller) => Job.notice c.id }
  t.wakeCallers (· = .joining pid)

/-- The relay sees that the process has ended. -/
def relayEnd (t : Turn) (pid : Pid) (code : Int) : Turn :=
  (t.say (.ended t.room.name pid code)).endRelay pid

/-- The relay reads on, and shows what is held back when the output has ended. It breaks down over
what it cannot read. -/
def relayOn (t : Turn) (pid : Pid) : Turn :=
  let (t, isSound) := t.relayAll pid
  if !isSound then t.endRelay pid
  else if (t.child pid).outputClosed then
    let c := t.child pid
    let (text, relay) := c.relay.tail
    let t := (t.setChild { c with relay }).append pid text
    match c.code with
    | some code => t.relayEnd pid code
    | none => t.setProgress pid .awaiting
  else t.setProgress pid .reading

/-- The relay of a process goes on. -/
def relay (t : Turn) (pid : Pid) : Turn :=
  let c := t.child pid
  match c.relay.progress with
  | .reading | .awaiting | .done => t
  | .unstarted =>
    if c.relay.isCancelled || !c.traits.hasOutput then t.endRelay pid else t.relayOn pid
  | .readable => if c.relay.isCancelled then t.endRelay pid else t.relayOn pid
  | .released =>
    match c.relay.isCancelled, c.code with
    | false, some code => t.relayEnd pid code
    | _, _ => t.endRelay pid

/-! The process. -/

/-- A process ends, unless it has ended before. -/
def exit (t : Turn) (pid : Pid) (code : Int) : Turn :=
  let c := t.child pid
  if c.hasEnded then t else (t.say (.exited pid code)).endChild c code

/-- A process writes. -/
def output (t : Turn) (pid : Pid) (portion : Machine.Bytes) : Turn :=
  let c := t.child pid
  let isOpen := (t.room.child? pid).isSome && !c.outputClosed
  (if isOpen then t.say (.uttered pid portion) else t).rouse (c.write portion)

def closeOutput (t : Turn) (pid : Pid) : Turn :=
  t.rouse { t.child pid with outputClosed := true }

/-! The display. -/

def clear (t : Turn) : Turn :=
  match t.room.display with
  | none => t
  | some _ => { t with room := { t.room with display := some [] } }.say (.cleared t.room.name)

def openDisplay (t : Turn) : Turn :=
  { t with room := { t.room with display := some (t.room.display.getD []) } }

end Turn

/-- What an action does in a room. -/
def Room.act (r : Room) (s : Setting) (a : Action) : Turn :=
  let t : Turn := { room := r }
  match a with
  | .begin id request => t.begin s id request
  | .resume id => t.resume s id
  | .launched id outcome => t.launched s id outcome
  | .wake id => t.wake id
  | .relay pid => t.relay pid
  | .exit pid code => t.exit pid code
  | .output pid portion => t.output pid portion
  | .closeOutput pid => t.closeOutput pid
  | .drained id isBroken => t.drained id isBroken
  | .cancel id => t.cancel id
  | .clear => t.clear
  | .openDisplay => t.openDisplay

end ToolHost.Session

import Mathlib
import ToolHost.Proofs.Session.Mild

/-!
# What is done to a process

Whatever is done in a room is a chain of strokes. Most of them are mild; the others are few, and
each says when it may be done: a line is written to the recorded process, the record is taken away,
the input is closed, the process is killed, its relay is told to end, a call gives it time.
-/
namespace ToolHost.Session

def Request.isRestart : Request → Bool
  | .restart _ => true
  | _ => false

/-- A call comes in with a deed, having begun just then or waited in the queue. -/
def Deed.Enters (d : Deed) (id : CallId) (q : Request) : Prop :=
  d.action = .begin id q ∨
    d.action = .resume id ∧ ∃ c ∈ d.room.callers, c.id = id ∧ c.request = q ∧ c.phase = .queued

/-- A deed gives a process no time: it is not to be replaced and runs, or no time is given at
all. -/
def Deed.Hurries (d : Deed) (q : Request) (pid : Pid) : Prop :=
  q.isRestart = false ∧ (d.room.child pid).hasEnded = false ∨
    d.setting.grace.length.isPositive = false

/-- When a process is killed: as soon as its record is taken away, if it is given no time or its
relay has ended; else when the time is over that it was given. -/
inductive Deed.Slays (d : Deed) (pid : Pid) : Prop
  | atOnce (id : CallId) (q : Request) (enters : d.Enters id q)
      (recorded : d.room.recorded = some pid) (runs : (d.room.child pid).hasEnded = false)
      (reason : d.Hurries q pid ∨ (d.room.child pid).relay.isDone)
  | late (c : Caller) (mem : c ∈ d.room.callers) (phase : c.phase = .grace pid)
      (wake : c.wake ≠ .asleep) (action : d.action = .resume c.id)
      (runs : (d.room.child pid).hasEnded = false)

/-- What is done to a process with a deed. -/
inductive Stroke (d : Deed) : Turn → Turn → Prop
  | mild {t u} (h : Mild t u) : Stroke d t u
  /-- A process writes. -/
  | utter {t} (pid portion) (isOpen : (t.child pid).outputClosed = false) :
      Stroke d t (t.say (.uttered pid portion))
  /-- A call in its grace period is woken. -/
  | wake {t} (c : Caller) (action : d.action = .wake c.id) (room : t.room = d.room)
      (mem : c ∈ d.room.callers) (asleep : c.wake = .asleep) :
      Stroke d t { t with room := t.room.setCaller { c with wake := .woken } }
  | write {t} (id pid piece) (recorded : t.room.recorded = some pid) :
      Stroke d t (t.say (.wrote id pid piece))
  | drop {t} (v : Visit) (pid) (enters : d.Enters v.id v.request)
      (recorded : t.room.recorded = some pid) (hurries : d.Hurries v.request pid) :
      Stroke d t (t.pop pid)
  | yield {t} (v : Visit) (pid) (enters : d.Enters v.id v.request)
      (recorded : t.room.recorded = some pid) : Stroke d t ((t.pop pid).closeInput pid)
  | closeInput {t} (pid) (mem : pid ∈ t.room.pids) (vacant : t.room.recorded = none) :
      Stroke d t (t.closeInput pid)
  | cancelRelay {t} (pid) (alone : t.room.NoGrace) (vacant : t.room.recorded = none) :
      Stroke d t (t.setChild (t.child pid).cancelRelay.1)
  | kill {t} (pid) (slays : d.Slays pid) (mem : pid ∈ t.room.pids)
      (vacant : t.room.recorded = none) : Stroke d t (t.say (.killed pid))
  /-- A call gives a process time. -/
  | await {t} (v : Visit) (pid) (enters : d.Enters v.id v.request)
      (recorded : d.room.recorded = some pid) (pids : t.room.pids = d.room.pids)
      (cancelled : (t.child pid).relay.isCancelled = (d.room.child pid).relay.isCancelled)
      (vacant : t.room.recorded = none) :
      Stroke d t ({ t with alarms := t.alarms ++ [(v.id, d.setting.grace.length)] }.parkIn v
        (.grace pid) .asleep)
  | adopt {t} (dir) (b : Birth) (fresh : b.pid ∉ t.room.pids) (alone : t.room.NoGrace)
      (vacant : t.room.recorded = none) : Stroke d t { t with room := t.room.adopt dir b }

/-- All that is done with a deed, one after another. -/
def Strokes (d : Deed) : Turn → Turn → Prop := Relation.ReflTransGen (Stroke d)

namespace Strokes

variable {d : Deed} {t u w : Turn}

theorem trans (h : Strokes d t u) (k : Strokes d u w) : Strokes d t w :=
  Relation.ReflTransGen.trans h k

theorem single (h : Stroke d t u) : Strokes d t u := Relation.ReflTransGen.single h

theorem mild (h : Mild t u) : Strokes d t u := single (.mild h)

theorem refl (t : Turn) : Strokes d t t := Relation.ReflTransGen.refl

/-- What every stroke preserves, all that is done with a deed preserves. -/
theorem preserves {P : Turn → Prop} (step : ∀ {t u}, Stroke d t u → P t → P u)
    (h : Strokes d t u) (start : P t) : P u := by
  induction h with
  | refl => exact start
  | tail _ hs ih => exact step hs ih

end Strokes

/-! ## The functions of a turn -/

section Leaving

variable (d : Deed) {t : Turn} (v : Visit)

theorem depart_strokes (t : Turn) (id : CallId) {next : Turn → Turn}
    (h : ∀ u, Strokes d u (next u)) : Strokes d t (t.depart id next) := by
  have gone {u : Turn} (children : u.room.children = t.room.children)
      (recorded : u.room.recorded = t.room.recorded) (callers : u.room.callers = t.room.callers)
      (alarms : u.alarms = t.alarms) (trace : u.trace = t.trace) : Strokes d t u :=
    .mild (.of_room children recorded callers alarms trace)
  unfold Turn.depart
  split
  · exact .mild (.finish _ _ _)
  · split
    · refine Strokes.trans ?_ (h _)
      exact gone rfl rfl rfl rfl rfl
    · simp only
      split
      · refine Strokes.trans ?_ (h _)
        exact gone rfl rfl rfl rfl rfl
      · split
        · exact gone rfl rfl rfl rfl rfl
        · refine Strokes.trans ?_ (h _)
          exact gone rfl rfl rfl rfl rfl

theorem leave_strokes (alone : t.room.NoGrace) {next : Turn → Turn}
    (h : ∀ u, Strokes d u (next u)) : Strokes d t (t.leave v next) := by
  have said : Mild t (t.say (.left t.room.name v.id t.room.recorded)) := .say t rfl
  have released : Mild t (t.release v) := said.trans (.invite _ _ _ alone)
  exact (Strokes.mild released).trans (depart_strokes d _ v.id h)

theorem conclude_strokes (alone : t.room.NoGrace) (e : Ending) : Strokes d t (t.conclude v e) :=
  leave_strokes d v alone fun _ => .mild (.finish _ _ _)

variable (s : Setting)

theorem launch_strokes (alone : t.room.NoGrace) : Strokes d t (t.launch s v) := by
  unfold Turn.launch
  split
  · exact conclude_strokes d v alone _
  · next argv _ =>
    have waits : Mild t (t.parkIn v (.spawning argv) .woken) := .park t nofun nofun
    exact .mild (waits.trans (.ready _ _))

theorem proceed_strokes (alone : t.room.NoGrace) : Strokes d t (t.proceed s v) := by
  unfold Turn.proceed
  split
  · exact launch_strokes d v s alone
  · exact launch_strokes d v s alone
  · exact conclude_strokes d v alone _
  · exact conclude_strokes d v alone _

variable {pid : Pid} (mem : pid ∈ t.room.pids) (alone : t.room.NoGrace)
  (vacant : t.room.recorded = none)

include mem alone vacant

theorem stopped_strokes : Strokes d t (t.stopped s v pid) := by
  have closed : (t.closeInput pid).room.NoGrace :=
    fun c hc => alone c (t.callers_closeInput pid ▸ hc)
  refine (Strokes.single (.closeInput pid mem vacant)).trans ?_
  exact (Strokes.mild (.say _ rfl)).trans (proceed_strokes d v s closed)

theorem join_strokes : Strokes d t (t.join s v pid) := by
  unfold Turn.join
  simp only
  split
  · exact stopped_strokes d v s mem alone vacant
  · refine (Strokes.single (.cancelRelay pid alone vacant)).trans ?_
    have waits (u : Turn) (pids : u.room.pids = t.room.pids) :
        Mild u (u.parkIn v (.joining pid) .asleep) := by
      refine .park u nofun fun p hp => ?_
      cases hp
      exact pids ▸ mem
    have pids := t.room.pids_setChild (t.child pid).cancelRelay.1
    split
    · exact .mild ((Mild.ready _ _).trans (waits _ pids))
    · exact .mild (waits _ pids)

theorem kill_strokes (slays : (t.child pid).hasEnded = false → d.Slays pid) :
    Strokes d t (t.kill s v pid) := by
  have ended (x : Happening) (said : Strokes d t (t.say x)) (code : Int) :
      Strokes d t (((t.say x).endChild (t.child pid) code).join s v pid) := by
    have ends : Mild (t.say x) ((t.say x).endChild (t.child pid) code) :=
      .endChild (t.say x) pid (t.room.child_pid pid) (.refl _) code
    refine (said.trans (.mild ends)).trans (join_strokes d v s ?_ ?_ ?_)
    · exact ends.pids.symm ▸ mem
    · exact Room.NoGrace.mild (t := t.say x) alone ends
    · exact ends.recorded.trans vacant
  unfold Turn.kill
  simp only
  split
  · exact join_strokes d v s mem alone vacant
  · next runs =>
    have killed : Strokes d t (t.say (.killed pid)) :=
      .single (.kill pid (slays (by simpa using runs)) mem vacant)
    split
    · exact ended _ killed _
    · exact ended _ (.mild (.say t rfl)) _
    · refine killed.trans (.mild (.park _ nofun fun p hp => ?_))
      cases hp
      exact mem

end Leaving

section Entering

variable {d : Deed} {t : Turn} {v : Visit}

/-- What a call that comes in does to the process that is recorded. -/
theorem stop_strokes (enters : d.Enters v.id v.request) (alone : t.room.NoGrace)
    (children : t.room.children = d.room.children) (same : t.room.recorded = d.room.recorded)
    (mem : ∀ pid, t.room.recorded = some pid → pid ∈ t.room.pids) {isReplaced : Bool}
    (replaced : v.request.isRestart = isReplaced) :
    Strokes d t (t.stop d.setting v isReplaced) := by
  unfold Turn.stop
  split
  · exact proceed_strokes d v _ alone
  · next pid recorded =>
    have here : d.room.recorded = some pid := same ▸ recorded
    have mem := mem pid recorded
    have child : t.room.child pid = d.room.child pid := Room.child_congr children pid
    have pids : (t.pop pid).room.pids = t.room.pids := t.pids_pop pid
    have popped : (t.pop pid).room.child pid = { d.room.child pid with isStopped := true } := by
      rw [Turn.child_pop, if_pos ⟨rfl, mem⟩, child]
    simp only
    split
    · next patient =>
      have yields : Strokes d t ((t.pop pid).closeInput pid) :=
        .single (.yield v pid enters recorded)
      have side := Side.closeInput (t.pop pid) pid
      have still : ((t.pop pid).closeInput pid).room.NoGrace :=
        fun c hc => alone c ((t.pop pid).callers_closeInput pid ▸ hc)
      have closed := Turn.child_closeInput (t.pop pid) pid pid
      rw [if_pos ⟨rfl, pids.symm ▸ mem⟩, popped] at closed
      split
      · next done =>
        change ((t.pop pid).room.child pid).relay.isDone at done
        rw [popped] at done
        refine yields.trans (kill_strokes d v _ (side.pids.trans pids ▸ mem) still side.recorded
          fun runs => ?_)
        change (((t.pop pid).closeInput pid).room.child pid).hasEnded = false at runs
        rw [closed] at runs
        exact .atOnce v.id v.request enters here runs (.inr done)
      · refine yields.trans (.single (.await v pid enters here ?_ ?_ side.recorded))
        · exact (side.pids.trans pids).trans (Room.pids_congr children)
        · change (((t.pop pid).closeInput pid).room.child pid).relay.isCancelled = _
          rw [closed]
    · next hurried =>
      have hurries : d.Hurries v.request pid := by
        change ¬ ((isReplaced || ((t.pop pid).room.child pid).hasEnded) &&
          d.setting.grace.length.isPositive) = true at hurried
        rw [popped, Bool.and_eq_true, Bool.or_eq_true, not_and_or, not_or] at hurried
        refine hurried.imp (fun h => ⟨?_, ?_⟩) (fun h => by simpa using h)
        · rw [replaced]
          simpa using h.1
        · have runs : ¬ (d.room.child pid).hasEnded = true := h.2
          simpa using runs
      have drops : Strokes d t (t.pop pid) := .single (.drop v pid enters recorded hurries)
      refine drops.trans (kill_strokes d v _ (pids ▸ mem) alone rfl fun runs => ?_)
      change ((t.pop pid).room.child pid).hasEnded = false at runs
      rw [popped] at runs
      exact .atOnce v.id v.request enters here runs (.inl hurries)

theorem deliver_strokes (d : Deed) (t : Turn) (id : CallId) (line : String) :
    Strokes d t (t.deliver id line) := by
  unfold Turn.deliver
  simp only
  split
  · exact .mild (.finish _ _ _)
  · next session live =>
    split
    · exact .mild (.finish _ _ _)
    · have own : (t.child session.pid).pid = session.pid := t.room.child_pid _
      rw [own]
      have writes : Strokes d t (t.say (.wrote id session.pid (Text.Utf8.encode (line ++ "\n")))) :=
        .single (.write _ _ _ (Room.live?_eq_some live).1)
      refine writes.trans ?_
      refine (Strokes.mild (.ready _ (.input session.pid (Text.Utf8.encode (line ++ "\n"))))).trans ?_
      split
      · exact .mild ((Mild.say _ rfl).trans (.finish _ _ _))
      · exact .mild (.finish _ _ _)
      · exact .mild (.park _ nofun nofun)

theorem record_strokes (dir : Machine.Path) (argv : List String) {b : Birth}
    (fresh : b.pid ∉ t.room.pids) (alone : t.room.NoGrace) (vacant : t.room.recorded = none) :
    Strokes d t (t.record d.setting v dir argv b) := by
  refine (Strokes.single (.adopt dir b fresh alone vacant)).trans ?_
  let u : Turn := { t with room := t.room.adopt dir b }
  have told : Mild u (((u.say (.spawned true b.pid argv dir.text d.setting.extra)).ready
      (.relay b.pid)).say (.started t.room.name b.pid dir.text)) :=
    ((Mild.say u rfl).trans (.ready _ _)).trans (.say _ rfl)
  exact (Strokes.mild told).trans (conclude_strokes d v (Room.NoGrace.mild (t := u) alone told) _)

theorem start_strokes {dir : Machine.Path} (request : v.request = .start dir)
    (enters : d.Enters v.id v.request) (alone : t.room.NoGrace)
    (children : t.room.children = d.room.children) (same : t.room.recorded = d.room.recorded)
    (mem : ∀ pid, t.room.recorded = some pid → pid ∈ t.room.pids) :
    Strokes d t (t.start d.setting v) := by
  unfold Turn.start
  split
  · exact launch_strokes d v _ alone
  · next pid _ =>
    split
    · have said : Mild t (t.say (.alreadyLive t.room.name pid)) := .say t rfl
      exact (Strokes.mild said).trans (conclude_strokes d v (t := t.say _) alone _)
    · exact stop_strokes enters alone children same mem (by rw [request]; rfl)

theorem enter_strokes (enters : d.Enters v.id v.request) (alone : t.room.NoGrace)
    (children : t.room.children = d.room.children) (same : t.room.recorded = d.room.recorded)
    (mem : ∀ pid, t.room.recorded = some pid → pid ∈ t.room.pids) :
    Strokes d t (t.enter d.setting v) := by
  have taken : Mild t (t.take v) :=
    .of_children rfl rfl (fun _ hc => .inl hc) rfl ⟨[_], rfl, by simp [Happening.isMild]⟩
  unfold Turn.enter
  refine (Strokes.mild taken).trans ?_
  simp only
  split
  · next request => exact start_strokes (t := t.take v) request enters alone children same mem
  · next request =>
    exact stop_strokes (t := t.take v) enters alone children same mem (by rw [request]; rfl)
  · next request =>
    exact stop_strokes (t := t.take v) enters alone children same mem (by rw [request]; rfl)
  · exact leave_strokes d v (t := t.take v) alone fun u => deliver_strokes d u v.id _

end Entering

/-- While a call is at work inside the latch, nobody else is in its grace period. -/
theorem Sound.noGrace {r : Room} {v : Visit} {st : Stage} (h : Sound (.inside v st) r) :
    r.NoGrace := by
  intro c hc pid hp
  have none := h.no_stage h.alone.2 hc
  rw [hp] at none
  cases none

/-- What is to be known of a room so that what is done there can be told. -/
structure Known (r : Room) : Prop where
  recorded : ∀ pid, r.recorded = some pid → pid ∈ r.pids
  wards : ∀ c ∈ r.callers, ∀ pid, c.phase.ward? = some pid → pid ∈ r.pids

section Acting

variable {d : Deed}

theorem approach_strokes {id : CallId} {request : Request} (action : d.action = .begin id request)
    (sound : Sound (.calling id request) d.room) (known : Known d.room)
    (h : request.isLine → ∃ n, d.room.latch = some n ∧ (d.room.latchAt n).isHeld) :
    Strokes d { room := d.room } (Turn.approach { room := d.room } d.setting id request) := by
  let t : Turn := { room := d.room }
  have approached : Mild t ({ t with room := d.room.knock }.say (.approached d.room.name id)) :=
    .of_children rfl rfl (fun _ hc => .inl hc) rfl ⟨[_], rfl, by simp [Happening.isMild]⟩
  unfold Turn.approach
  refine (Strokes.mild approached).trans ?_
  simp only
  split
  · next isOpen =>
    have before := (Move.approach (t := t) h).sound sound
    have inside := (Move.enter isOpen).sound before
    exact enter_strokes (.inl action) inside.noGrace rfl rfl known.recorded
  · let u : Turn := { t with room := d.room.knock }.say (.approached d.room.name id)
    have queued (l : Latch) : Mild u { u with room := u.room.setLatch d.room.latchNumber l } :=
      .of_room rfl rfl rfl rfl rfl
    have waits (w : Turn) (v : Visit) : Mild w (w.parkIn v .queued .asleep) :=
      .park w (by simp) (by simp [Phase.ward?])
    exact .mild ((queued _).trans (waits _ _))

theorem begin_strokes {id : CallId} {request : Request} (action : d.action = .begin id request)
    (sound : Sound (.calling id request) d.room) (known : Known d.room) :
    Strokes d { room := d.room } (Turn.begin { room := d.room } d.setting id request) := by
  unfold Turn.begin
  split
  · split
    · next n latch =>
      split
      · next held => exact approach_strokes action sound known fun _ => ⟨n, latch, held⟩
      · exact deliver_strokes d _ id _
    · exact deliver_strokes d _ id _
  · next other =>
    refine approach_strokes action sound known fun line => ?_
    cases request with
    | send text => exact absurd rfl (other text)
    | _ => cases line

variable (sound : Sound .idle d.room) (tidy : Tidy .idle d.room) (known : Known d.room)

include sound tidy known

theorem advance_strokes {c : Caller} {n : Nat} (mem : c ∈ d.room.callers)
    (latch : c.latch = some n) (awake : c.wake ≠ .asleep)
    (unborn : ∀ argv, c.phase = .spawning argv → c.wake ≠ .woken)
    (action : d.action = .resume c.id) :
    Strokes d { room := d.room } ((Turn.unpark { room := d.room } c.id).advance d.setting
      (c.visit n) c.phase c.wake) := by
  let t : Turn := { room := d.room }
  have calm := tidy.calm c mem
  have woken : c.wake = .woken := by
    cases hw : c.wake with
    | asleep => exact absurd hw awake
    | woken => rfl
    | interrupted => exact absurd hw calm
  have goes {g : Stage} (goesOn : c.phase.goesOn? c.wake = some g) :
      (t.unpark c.id).room.NoGrace ∧ g.Holds d.room := by
    have inside := (Move.resume (t := t) mem latch goesOn (.inl awake)).sound sound
    exact ⟨inside.noGrace, tidy.goesOn sound mem latch goesOn (.inl awake)⟩
  have ward := known.wards c mem
  refine (Strokes.mild (.unpark _ c.id)).trans ?_
  cases hp : c.phase with
  | queued =>
    have inside := (Move.letIn (t := t) mem latch hp woken).sound sound
    have quit : Mild (t.unpark c.id) ((t.unpark c.id).quit (c.visit n)) :=
      .of_room rfl rfl rfl rfl rfl
    rw [woken]
    refine (Strokes.mild quit).trans ?_
    refine enter_strokes ?_ inside.noGrace rfl rfl known.recorded
    exact .inr ⟨action, c, mem, rfl, rfl, hp⟩
  | joining pid =>
    obtain ⟨alone, vacant, -⟩ := goes (g := .clearing pid) (by rw [hp]; rfl)
    have there := ward pid (by rw [hp]; rfl)
    rw [woken]
    exact stopped_strokes d _ _ (t := t.unpark c.id) there alone vacant
  | grace pid =>
    obtain ⟨alone, vacant, -⟩ := goes (g := .holding pid) (by rw [hp, woken]; rfl)
    have there := ward pid (by rw [hp]; rfl)
    have slays (runs : (d.room.child pid).hasEnded = false) : d.Slays pid :=
      .late c mem hp awake action runs
    rw [woken]
    change Strokes d _ (Turn.kill (if _ then _ else _) d.setting (c.visit n) pid)
    split
    · exact kill_strokes d _ _ (t := t.unpark c.id) there alone vacant slays
    · have said : Mild (t.unpark c.id)
          ((t.unpark c.id).say (.outlasted t.room.name d.setting.grace.text)) := .say _ rfl
      refine (Strokes.mild said).trans ?_
      exact kill_strokes d _ _ (t := (t.unpark c.id).say _) there alone vacant slays
  | reaping pid =>
    obtain ⟨alone, vacant, -⟩ := goes (g := .clearing pid) (by rw [hp, woken]; rfl)
    have there := ward pid (by rw [hp]; rfl)
    rw [woken]
    exact join_strokes d _ _ (t := t.unpark c.id) there alone vacant
  | spawning argv => exact absurd woken (unborn argv hp)
  | draining =>
    rw [(sound.placed.suits mem).latch.mpr hp] at latch
    cases latch

theorem resume_strokes {id : CallId} (action : d.action = .resume id) :
    Strokes d { room := d.room } (Turn.resume { room := d.room } d.setting id) := by
  unfold Turn.resume
  split
  · exact .refl _
  · next c hc =>
    have mem := Room.mem_of_caller? hc
    obtain rfl := Room.id_of_caller? hc
    split
    · exact .refl _
    · exact .refl _
    · exact .mild ((Mild.unpark _ _).trans (.finish _ _ _))
    · next n latch awake unborn =>
      exact advance_strokes sound tidy known mem latch awake (fun argv hp => unborn argv hp) action

omit known in
theorem launched_strokes (id : CallId) (outcome : Except SpawnFault Birth)
    (fresh : ∀ b, outcome = .ok b → b.pid ∉ d.room.pids) :
    Strokes d { room := d.room } (Turn.launched { room := d.room } d.setting id outcome) := by
  let t : Turn := { room := d.room }
  unfold Turn.launched
  split
  · next c request n argv wake hc =>
    have mem := Room.mem_of_caller? hc
    obtain rfl := Room.id_of_caller? hc
    have goesOn : (Phase.spawning argv).goesOn? wake = some .vacant := by
      cases hw : wake with
      | interrupted => exact absurd hw (tidy.calm _ mem)
      | _ => rfl
    have inside := (Move.resume (t := t) mem rfl goesOn (.inr rfl)).sound sound
    have alone := inside.noGrace
    have vacant := (tidy.goesOn sound mem rfl goesOn (.inr rfl)).1
    refine (Strokes.mild (.unpark _ c)).trans ?_
    simp only
    split
    · exact conclude_strokes d _ (t := t.unpark c) alone _
    · have fails (dir : String) (v : Visit) (e : Ending) : Strokes d (t.unpark c)
          (((t.unpark c).say (.spawnFailed argv dir)).conclude v e) :=
        (Strokes.mild (.say _ rfl)).trans
          (conclude_strokes d v (t := (t.unpark c).say (.spawnFailed argv dir)) alone e)
      exact fails _ _ _
    · rename_i b _
      exact record_strokes _ argv (fresh b rfl) alone vacant
  · exact .refl _

end Acting

theorem drained_strokes (d : Deed) (t : Turn) (id : CallId) (isBroken : Bool) :
    Strokes d t (t.drained id isBroken) := by
  unfold Turn.drained
  split
  · refine (Strokes.mild (.unpark t id)).trans ?_
    simp only
    split
    · exact .mild (.finish _ _ _)
    · exact .mild ((Mild.say _ rfl).trans (.finish _ _ _))
  · exact .refl t

theorem output_strokes (d : Deed) (t : Turn) (pid : Pid) (portion : Machine.Bytes) :
    Strokes d t (t.output pid portion) := by
  have spared : (t.child pid).Spared ((t.child pid).write portion) := by
    unfold Child.write
    split <;> exact ⟨rfl, rfl, rfl, rfl, id⟩
  have own : ((t.child pid).write portion).pid = pid :=
    (Child.write_pid _ _).trans (t.room.child_pid pid)
  unfold Turn.output
  simp only
  split
  · next isOpen =>
    rw [Bool.and_eq_true] at isOpen
    have isOpen : (t.child pid).outputClosed = false := by simpa using isOpen.2
    exact (Strokes.single (.utter pid portion isOpen)).trans
      (.mild (.rouse (t.say _) pid own spared))
  · exact .mild (.rouse t pid own spared)

theorem wake_strokes {d : Deed} {id : CallId} (action : d.action = .wake id) :
    Strokes d { room := d.room } (Turn.wake { room := d.room } id) := by
  unfold Turn.wake
  split
  · next c hc =>
    have mem := Room.mem_of_caller? hc
    obtain rfl := Room.id_of_caller? hc
    split
    · next sleeps =>
      have asleep : c.wake = .asleep := by
        unfold Room.isInGrace at sleeps
        rw [hc] at sleeps
        split at sleeps
        · next found => exact (Option.some.inj found) ▸ rfl
        · cases sleeps
      have wakes := Strokes.single (Stroke.wake (t := { room := d.room }) c action rfl mem asleep)
      exact wakes.trans (.mild (.ready _ _))
    · exact .refl _
  · exact .refl _

/-- Every action but a call's giving up is a chain of strokes. -/
theorem act_strokes {d : Deed} (calm : d.action.isCancel = false) (sound : Sound .idle d.room)
    (fits : d.action.Fits d.room) (tidy : Tidy .idle d.room) (known : Known d.room) :
    Strokes d { room := d.room } d.turn := by
  have begins := sound.focus fits
  obtain ⟨r, s, a⟩ := d
  cases a with
  | begin id request => exact begin_strokes rfl begins known
  | resume id => exact resume_strokes sound tidy known rfl
  | launched id outcome =>
    refine launched_strokes sound tidy id outcome ?_
    rintro b rfl
    exact fits.birth b rfl
  | wake id => exact wake_strokes rfl
  | relay pid => exact .mild (.relay _ pid)
  | exit pid code => exact .mild (.exit _ pid code)
  | output pid portion => exact output_strokes _ _ pid portion
  | closeOutput pid => exact .mild (.closeOutput _ pid)
  | drained id isBroken => exact drained_strokes _ _ id isBroken
  | cancel id => cases calm
  | clear => exact .mild (.clear _)
  | openDisplay => exact .mild (.openDisplay _)

end ToolHost.Session

import Mathlib
import ToolHost.Proofs.Session.Drift

/-!
# Small steps

Whatever is done in a room is a chain of small steps, and there are few kinds of them: a call comes
to the latch, is let in or queues up, takes the record away, sees the process to its end, waits,
creates a process, gives the latch back, leaves, writes its line, ends. Here every action but a
call's giving up is shown to be such a chain (`act_moves`), so that what each small step preserves
is preserved by every action.
-/
namespace ToolHost.Session

/-- How far a call has come inside the latch. -/
inductive Stage
  | entered
  /-- It has taken away the record of a process, which may still run. -/
  | holding (pid : Pid)
  /-- That process has ended, but its relay may go on. -/
  | clearing (pid : Pid)
  /-- Nothing is recorded and nothing runs. -/
  | vacant
  /-- It is about to leave, and then to end as given or else to write its line. -/
  | leaving (e : Option Ending)

/-- Where the call stands that a chain of small steps is about. -/
inductive Focus
  /-- There is none yet. -/
  | idle
  | calling (id : CallId) (request : Request)
  /-- At the latch, neither inside nor in the queue. -/
  | before (v : Visit)
  | inside (v : Visit) (s : Stage)
  /-- It has given the latch back but still counts there. -/
  | behind (v : Visit) (e : Option Ending)
  /-- Not at the latch any more. -/
  | through (id : CallId) (request : Request) (e : Option Ending)
  /-- Its line is written. -/
  | sent (id : CallId) (line : String)
  /-- It waits or has ended. -/
  | closed (id : CallId) (request : Request)

/-- Where things may happen on the side that change the room. -/
def Focus.MayDrift : Focus → Prop
  | .idle | .inside _ .entered | .inside _ (.holding _) | .inside _ (.clearing _)
  | .inside _ .vacant => True
  | _ => False

/-- No call is under way; if there was one, it is the given one. -/
def Focus.IsOver (subject : Option CallId) : Focus → Prop
  | .idle => True
  | .closed id _ => subject = some id
  | _ => False

/-- The stage of a call that waits inside the latch. -/
def Phase.stage? : Phase → Option Stage
  | .grace pid | .reaping pid => some (.holding pid)
  | .joining pid => some (.clearing pid)
  | .spawning _ => some .vacant
  | .queued | .draining => none

/-- The stage at which a call goes on inside the latch. -/
def Phase.goesOn? : Phase → Wake → Option Stage
  | .queued, _ => none
  | .joining pid, _ => some (.clearing pid)
  | _, .interrupted => some (.leaving (some .abandoned))
  | .grace pid, _ => some (.holding pid)
  | .reaping pid, _ => some (.clearing pid)
  | .spawning _, _ => some .vacant
  | .draining, _ => some (.leaving (some .done))

theorem Phase.ne_queued_of_stage {p : Phase} {s : Stage} (h : p.stage? = some s) :
    p ≠ .queued := by
  rintro rfl
  cases h

theorem Phase.ne_draining_of_stage {p : Phase} {s : Stage} (h : p.stage? = some s) :
    p ≠ .draining := by
  rintro rfl
  cases h

theorem Phase.ne_queued_of_goesOn {p : Phase} {w : Wake} {s : Stage} (h : p.goesOn? w = some s) :
    p ≠ .queued := by
  rintro rfl
  cases h

/-- The visit of a call that waits at a latch. -/
def Caller.visit (c : Caller) (n : Nat) : Visit := ⟨c.id, c.request, n⟩

/-- Whether a call creates a process in the end. -/
def Request.launches : Request → Bool
  | .start _ | .restart _ => true
  | .stop | .send _ => false

/-- An ending that a call can come to when nothing is recorded and nothing runs. -/
def Request.mayEnd (q : Request) : Ending → Prop
  | .session _ => False
  | .done => q = .stop
  | .failed t => q.launches ∧ t ≠ .breakdown .missingKey
  | .abandoned => False

/-- What keeps a process from being launched is never a key that is not there. -/
def Setting.Sane (s : Setting) : Prop := s.command ≠ .error (.breakdown .missingKey)

def Request.isLine : Request → Bool
  | .send _ => true
  | _ => false

/-- What a call gives up when it leaves the latch is not there. -/
def Room.Lacks (r : Room) : Prop :=
  r.users = none ∨ r.users = some 1 ∧ r.recorded = none ∧ r.latch = none

/-- A small step. -/
inductive Move : Focus → Turn → Focus → Turn → Prop
  | drift {f t u} (h : Drift t u) (still : f.MayDrift ∨ u.room = t.room) : Move f t f u
  /-- A line goes to the latch only if somebody holds it. -/
  | approach {t id request}
      (h : request.isLine → ∃ n, t.room.latch = some n ∧ (t.room.latchAt n).isHeld) :
      Move (.calling id request) t (.before ⟨id, request, t.room.latchNumber⟩)
        ({ t with room := t.room.knock }.say (.approached t.room.name id))
  | enter {t v} (h : (t.room.latchAt v.latch).isOpen) :
      Move (.before v) t (.inside v .entered) (t.take v)
  | queue {t v} (h : (t.room.latchAt v.latch).isOpen = false) :
      Move (.before v) t (.closed v.id v.request) (t.wait v)
  | letIn {t c n} (mem : c ∈ t.room.callers) (latch : c.latch = some n)
      (phase : c.phase = .queued) (wake : c.wake = .woken) :
      Move .idle t (.inside (c.visit n) .entered)
        (((t.unpark c.id).quit (c.visit n)).take (c.visit n))
  | retreat {t u c n} (mem : c ∈ t.room.callers) (latch : c.latch = some n)
      (phase : c.phase = .queued) (wake : c.wake = .interrupted)
      (eq : u = (t.unpark c.id).quit (c.visit n)) :
      Move .idle t (.behind (c.visit n) (some .abandoned))
        (if (u.room.latchAt n).isHeld then u else u.invite n (u.room.latchAt n).invite)
  | resume {t c n s} (mem : c ∈ t.room.callers) (latch : c.latch = some n)
      (goesOn : c.phase.goesOn? c.wake = some s)
      (awake : c.wake ≠ .asleep ∨ c.phase.stage? = some .vacant) :
      Move .idle t (.inside (c.visit n) s) (t.unpark c.id)
  /-- A line has nothing to do inside. -/
  | pass {t v} (line : v.request.isLine) :
      Move (.inside v .entered) t (.inside v (.leaving none)) t
  | find {t v pid dir} (request : v.request = .start dir) (recorded : t.room.recorded = some pid)
      (live : (t.room.child pid).isLive) :
      Move (.inside v .entered) t (.inside v (.leaving (some (.session (t.room.session pid))))) t
  | miss {t v} (line : v.request.isLine = false) (recorded : t.room.recorded = none) :
      Move (.inside v .entered) t (.inside v .vacant) t
  | pop {t v pid} (line : v.request.isLine = false) (recorded : t.room.recorded = some pid) :
      Move (.inside v .entered) t (.inside v (.holding pid)) (t.pop pid)
  | reap {t v pid} (h : ¬ t.room.Runs pid) :
      Move (.inside v (.holding pid)) t (.inside v (.clearing pid)) t
  | clear {t v pid} (h : ¬ t.room.Relays pid) :
      Move (.inside v (.clearing pid)) t (.inside v .vacant) t
  | park {t v s phase wake} (stage : phase.stage? = some s)
      (asleep : wake = .asleep ∧ s ≠ .vacant ∨
        wake = .woken ∧ s = .vacant ∧ v.request.launches) :
      Move (.inside v s) t (.closed v.id v.request) (t.parkIn v phase wake)
  | giveUp {t v e} (h : v.request.mayEnd e) :
      Move (.inside v .vacant) t (.inside v (.leaving (some e))) t
  | adopt {t v} (dir) (b : Birth) (fresh : b.pid ∉ t.room.pids) (launches : v.request.launches) :
      Move (.inside v .vacant) t
        (.inside v (.leaving (some (.session ((t.room.adopt dir b).session b.pid)))))
        { t with room := t.room.adopt dir b }
  | release {t v e} : Move (.inside v (.leaving e)) t (.behind v e) (t.release v)
  | depart {t v e n} (users : t.room.users = some n) (more : n ≠ 1) :
      Move (.behind v e) t (.through v.id v.request e)
        { t with room := { t.room with users := some (n - 1) } }
  | departLast {t v e} (users : t.room.users = some 1) (recorded : t.room.recorded.isSome) :
      Move (.behind v e) t (.through v.id v.request e)
        { t with room := { t.room with users := none } }
  | dropLatch {t v e} (users : t.room.users = some 1) (recorded : t.room.recorded = none)
      (latch : t.room.latch.isSome) :
      Move (.behind v e) t (.through v.id v.request e)
        { t with room := { t.room with users := none, latch := none } }
  | stumble {t u v e} (h : t.room.Lacks) : Move (.behind v e) t (.closed v.id v.request) u
  | direct {t id line} (h : ∀ n, t.room.latch = some n → (t.room.latchAt n).isHeld = false) :
      Move (.calling id (.send line)) t (.through id (.send line) none) t
  | refuse {t id line}
      (h : ∀ s, t.room.live? = some s → (t.room.child s.pid).traits.hasInput = false) :
      Move (.through id (.send line) none) t (.closed id (.send line))
        (t.finish id (.failed (.failure (.noActiveSession t.room.name))))
  | write {t id line s} (live : t.room.live? = some s)
      (input : (t.room.child s.pid).traits.hasInput) :
      Move (.through id (.send line) none) t (.sent id line)
        (t.say (.wrote id s.pid (Text.Utf8.encode (line ++ "\n"))))
  | block {t id line} : Move (.sent id line) t (.closed id (.send line))
      (t.park ⟨id, .send line, none, .draining, .asleep⟩)
  | answer {t id line e} (h : e = .done ∨ e = .failed (.failure (.noActiveSession t.room.name))) :
      Move (.sent id line) t (.closed id (.send line)) (t.finish id e)
  | finish {t id request e} :
      Move (.through id request (some e)) t (.closed id request) (t.finish id e)
  | drain {t c e} (mem : c ∈ t.room.callers) (phase : c.phase = .draining)
      (h : e = .done ∨ e = .failed (.failure (.noActiveSession t.room.name))) :
      Move .idle t (.closed c.id c.request) ((t.unpark c.id).finish c.id e)
  | forsake {t c} (mem : c ∈ t.room.callers) (latch : c.latch = none) (awake : c.wake ≠ .asleep) :
      Move .idle t (.closed c.id c.request) ((t.unpark c.id).finish c.id .abandoned)

/-- A chain of small steps. -/
def Moves (f : Focus) (t : Turn) (g : Focus) (u : Turn) : Prop :=
  Relation.ReflTransGen (fun a b : Focus × Turn => Move a.1 a.2 b.1 b.2) (f, t) (g, u)

namespace Moves

variable {f g : Focus} {t u w : Turn}

theorem refl (f : Focus) (t : Turn) : Moves f t f t := Relation.ReflTransGen.refl

theorem head {k : Focus} (h : Move f t g u) (m : Moves g u k w) : Moves f t k w :=
  Relation.ReflTransGen.head h m

theorem single (h : Move f t g u) : Moves f t g u := head h (refl g u)

theorem drift (may : f.MayDrift) (h : Drift t u) (m : Moves f u g w) : Moves f t g w :=
  head (.drift h (.inl may)) m

theorem note (h : Drift t u) (room : u.room = t.room) (m : Moves f u g w) : Moves f t g w :=
  head (.drift h (.inr room)) m

/-- What every small step preserves, a chain preserves. -/
theorem preserves {P : Focus → Turn → Prop}
    (step : ∀ {f t g u}, Move f t g u → P f t → P g u) (m : Moves f t g u) (h : P f t) : P g u := by
  have all : ∀ b : Focus × Turn,
      Relation.ReflTransGen (fun a b : Focus × Turn => Move a.1 a.2 b.1 b.2) (f, t) b →
        P b.1 b.2 := by
    intro b hb
    induction hb with
    | refl => exact h
    | tail _ hm ih => exact step hm ih
  exact all (g, u) m

end Moves

/-! ## The functions of a turn as chains -/

section Chains

variable (t : Turn) (v : Visit)

theorem depart_moves (e : Option Ending) {next : Turn → Turn}
    (h : ∀ u, Moves (.through v.id v.request e) u (.closed v.id v.request) (next u)) :
    Moves (.behind v e) t (.closed v.id v.request) (t.depart v.id next) := by
  unfold Turn.depart
  split
  · rename_i hu
    exact .single (.stumble (.inl hu))
  · rename_i n hu
    split
    · rename_i hn
      exact .head (.depart hu hn) (h _)
    · rename_i hn
      have hu : t.room.users = some 1 := by simpa using not_not.mp hn ▸ hu
      simp only
      split
      · rename_i hr
        exact .head (.departLast hu hr) (h _)
      · rename_i hr
        have hr : t.room.recorded = none := by simpa using hr
        split
        · rename_i hl
          exact .single (.stumble (.inr ⟨hu, hr, by simpa using hl⟩))
        · rename_i hl
          have hl : t.room.latch.isSome := by simpa [Option.isSome_iff_ne_none] using hl
          exact .head (.dropLatch hu hr hl) (h _)

theorem leave_moves (e : Option Ending) {next : Turn → Turn}
    (h : ∀ u, Moves (.through v.id v.request e) u (.closed v.id v.request) (next u)) :
    Moves (.inside v (.leaving e)) t (.closed v.id v.request) (t.leave v next) :=
  .head .release (depart_moves _ v e h)

theorem conclude_moves (e : Ending) :
    Moves (.inside v (.leaving (some e))) t (.closed v.id v.request) (t.conclude v e) :=
  leave_moves t v (some e) fun _ => .single .finish

theorem fail_moves (launches : v.request.launches) {e : Trouble}
    (key : e ≠ .breakdown .missingKey) :
    Moves (.inside v .vacant) t (.closed v.id v.request) (t.conclude v (.failed e)) := by
  have he : v.request.mayEnd (.failed e) := ⟨launches, key⟩
  exact .head (.giveUp he) (conclude_moves t v _)

theorem SpawnFault.trouble_ne_missingKey (f : SpawnFault) (argv : List String) (dir : String) :
    f.trouble argv dir ≠ .breakdown .missingKey := by
  cases f <;> simp [SpawnFault.trouble]

end Chains

section Lifecycle

variable (t : Turn) {s : Setting} (sane : s.Sane) (v : Visit)

include sane

theorem launch_moves (launches : v.request.launches) :
    Moves (.inside v .vacant) t (.closed v.id v.request) (t.launch s v) := by
  unfold Turn.launch
  split
  · rename_i e he
    have key : e ≠ .breakdown .missingKey := fun h => sane (by rw [he, h])
    exact fail_moves t v launches key
  · exact .head (.park rfl (.inr ⟨rfl, rfl, launches⟩)) (.note (.ready _ _) rfl (.refl _ _))

theorem proceed_moves (line : v.request.isLine = false) :
    Moves (.inside v .vacant) t (.closed v.id v.request) (t.proceed s v) := by
  unfold Turn.proceed
  split
  · rename_i dir hq
    exact launch_moves t sane v (by rw [hq]; rfl)
  · rename_i dir hq
    exact launch_moves t sane v (by rw [hq]; rfl)
  · rename_i hq
    have he : v.request.mayEnd .done := hq
    exact .head (.giveUp he) (conclude_moves t v .done)
  · rename_i hq
    simp [hq, Request.isLine] at line

theorem stopped_moves (line : v.request.isLine = false) {pid : Pid}
    (ended : ¬ t.room.Relays pid) :
    Moves (.inside v (.clearing pid)) t (.closed v.id v.request) (t.stopped s v pid) :=
  .head (.clear ended)
    (.drift trivial ((Drift.closeInput t pid).trans (.say _ rfl rfl))
      (proceed_moves _ sane v line))

theorem join_moves (line : v.request.isLine = false) (pid : Pid) :
    Moves (.inside v (.clearing pid)) t (.closed v.id v.request) (t.join s v pid) := by
  unfold Turn.join
  simp only
  split
  · rename_i hd
    refine stopped_moves t sane v line ?_
    rw [Room.relays_iff]
    rintro ⟨-, hn⟩
    exact Bool.false_ne_true (hn.symm.trans hd)
  · have h : Drift t (t.setChild (t.child pid).cancelRelay.1) := .cancelRelay t pid
    split
    · exact .drift trivial (h.trans (.ready _ _))
        (.single (.park rfl (.inl ⟨rfl, Stage.noConfusion⟩)))
    · exact .drift trivial h (.single (.park rfl (.inl ⟨rfl, Stage.noConfusion⟩)))

theorem kill_moves (line : v.request.isLine = false) (pid : Pid) :
    Moves (.inside v (.holding pid)) t (.closed v.id v.request) (t.kill s v pid) := by
  have ended (x : Happening) (hx : x.isAside) (quiet : x.isOutput = false)
      (hn : (t.child pid).code = none) (code : Int) :
      Moves (.inside v (.holding pid)) t (.closed v.id v.request)
        (((t.say x).endChild (t.child pid) code).join s v pid) := by
    have hs : Drift t (t.say x) := .say t hx quiet
    refine .drift trivial (hs.trans (.endChild (t.say x) pid hn code)) ?_
    refine .head (.reap ?_) (join_moves _ sane v line pid)
    have hr := Drift.not_runs_endChild (t.say x) (t.child pid) code
    rwa [show (t.child pid).pid = pid from t.room.child_pid pid] at hr
  unfold Turn.kill
  simp only
  split
  · rename_i he
    refine .head (.reap ?_) (join_moves t sane v line pid)
    rintro hr
    have hn : (t.child pid).code = none := ((t.room.runs_iff pid).mp hr).2
    simp [Child.hasEnded, hn] at he
  · rename_i he
    have hn : (t.child pid).code = none := by simpa [Child.hasEnded] using he
    split
    · exact ended _ rfl rfl hn _
    · exact ended _ rfl rfl hn _
    · exact .drift trivial (.say _ rfl rfl) (.single (.park rfl (.inl ⟨rfl, Stage.noConfusion⟩)))

theorem stop_moves (line : v.request.isLine = false) (isReplaced : Bool) :
    Moves (.inside v .entered) t (.closed v.id v.request) (t.stop s v isReplaced) := by
  unfold Turn.stop
  split
  · rename_i hr
    exact .head (.miss line hr) (proceed_moves t sane v line)
  · rename_i pid hr
    refine .head (.pop line hr) ?_
    simp only
    split
    · refine .drift trivial (.closeInput _ pid) ?_
      split
      · exact kill_moves _ sane v line pid
      · exact .drift trivial (.alarms _ _) (.single (.park rfl (.inl ⟨rfl, Stage.noConfusion⟩)))
    · exact kill_moves _ sane v line pid

theorem start_moves {dir : Machine.Path} (request : v.request = .start dir) :
    Moves (.inside v .entered) t (.closed v.id v.request) (t.start s v) := by
  have line : v.request.isLine = false := by rw [request]; rfl
  unfold Turn.start
  split
  · rename_i hr
    exact .head (.miss line hr) (launch_moves t sane v (by rw [request]; rfl))
  · rename_i pid hr
    split
    · rename_i hl
      exact .head (.find request hr hl) (.note (.say _ rfl rfl) rfl (conclude_moves _ v _))
    · exact stop_moves t sane v line false

omit sane in
theorem record_moves (dir : Machine.Path) (argv : List String) (b : Birth)
    (fresh : b.pid ∉ t.room.pids) (launches : v.request.launches) :
    Moves (.inside v .vacant) t (.closed v.id v.request) (t.record s v dir argv b) :=
  .head (.adopt dir b fresh launches)
    (.note (((Drift.say _ rfl rfl).trans (.ready _ _)).trans (.say _ rfl rfl)) rfl (conclude_moves _ v _))

omit sane in
theorem deliver_moves (id : CallId) (line : String) :
    Moves (.through id (.send line) none) t (.closed id (.send line)) (t.deliver id line) := by
  unfold Turn.deliver
  simp only
  split
  · rename_i hl
    exact .single (.refuse (by simp [hl]))
  · rename_i session hl
    split
    · rename_i hi
      refine .single (.refuse ?_)
      intro x hx
      rw [hl] at hx
      cases hx
      have hi : (t.child session.pid).traits.hasInput = false := by simpa using hi
      exact hi
    · rename_i hi
      have hi : (t.child session.pid).traits.hasInput = true := by simpa using hi
      have hp : (t.child session.pid).pid = session.pid := t.room.child_pid _
      rw [hp]
      refine .head (.write hl hi) ?_
      refine .note (.ready _ (.input session.pid (Text.Utf8.encode (line ++ "\n")))) rfl ?_
      split
      · exact .note (.say _ rfl rfl) rfl (.single (.answer (.inl rfl)))
      · exact .single (.answer (.inr rfl))
      · exact .single .block

/-- A call that was let in goes on until it waits or ends. -/
theorem enter_moves :
    Moves (.inside v .entered) (t.take v) (.closed v.id v.request) (t.enter s v) := by
  unfold Turn.enter
  simp only
  split
  · rename_i dir hq
    exact start_moves _ sane v hq
  · rename_i hq
    exact stop_moves _ sane v (by rw [hq]; rfl) false
  · rename_i dir hq
    exact stop_moves _ sane v (by rw [hq]; rfl) true
  · rename_i line hq
    refine .head (.pass (by rw [hq]; rfl)) (leave_moves _ v none ?_)
    intro u
    rw [hq]
    exact deliver_moves u v.id line

theorem approach_moves (id : CallId) (request : Request)
    (h : request.isLine → ∃ n, t.room.latch = some n ∧ (t.room.latchAt n).isHeld) :
    Moves (.calling id request) t (.closed id request) (t.approach s id request) := by
  unfold Turn.approach
  refine .head (.approach h) ?_
  simp only
  split
  · rename_i ho
    exact .head (.enter ho) (enter_moves _ sane _)
  · rename_i ho
    exact .single (.queue (by simpa using ho))

theorem begin_moves (id : CallId) (request : Request) :
    Moves (.calling id request) t (.closed id request) (t.begin s id request) := by
  unfold Turn.begin
  split
  · rename_i line
    split
    · rename_i n hn
      split
      · rename_i hh
        exact approach_moves t sane id _ fun _ => ⟨n, hn, hh⟩
      · rename_i hh
        refine .head (.direct ?_) (deliver_moves t id line)
        intro m hm
        rw [hn] at hm
        cases hm
        simpa using hh
    · rename_i hn
      exact .head (.direct (by simp [hn])) (deliver_moves t id line)
  · rename_i hne
    refine approach_moves t sane id request ?_
    intro hl
    cases request with
    | send line => exact absurd rfl (hne line)
    | _ => cases hl

/-- A call that was in the queue of a latch goes on. -/
theorem unqueue_moves {c : Caller} {n : Nat} (mem : c ∈ t.room.callers) (latch : c.latch = some n)
    (phase : c.phase = .queued) (awake : c.wake ≠ .asleep) :
    Moves .idle t (.closed c.id c.request) ((t.unpark c.id).unqueue s (c.visit n) c.wake) := by
  unfold Turn.unqueue
  simp only
  split
  · rename_i hw
    exact .head (.retreat mem latch phase hw rfl)
      (depart_moves _ (c.visit n) _ fun _ => .single .finish)
  · rename_i hw
    have hw : c.wake = .woken := by
      cases h : c.wake with
      | asleep => exact absurd h awake
      | woken => rfl
      | interrupted => exact absurd h hw
    exact .head (.letIn mem latch phase hw) (enter_moves _ sane (c.visit n))

/-- A line waits for nothing but the latch or to be taken. -/
def Room.NoLineInside (r : Room) : Prop :=
  ∀ c ∈ r.callers, c.request.isLine → c.phase = .queued ∨ c.phase = .draining

/-- A call that waits for a relay to end goes on only when it has. -/
def Room.JoinsEnded (r : Room) : Prop :=
  ∀ c ∈ r.callers, ∀ pid, c.phase = .joining pid → c.wake ≠ .asleep → ¬ r.Relays pid

/-- Only a call that creates a process waits for one to be created. -/
def Room.OnlyLaunches (r : Room) : Prop :=
  ∀ c ∈ r.callers, ∀ argv, c.phase = .spawning argv → c.request.launches

theorem advance_moves {c : Caller} {n : Nat} (mem : c ∈ t.room.callers) (latch : c.latch = some n)
    (awake : c.wake ≠ .asleep) (unborn : ∀ argv, c.phase = .spawning argv → c.wake = .interrupted)
    (lines : t.room.NoLineInside) (joins : t.room.JoinsEnded) :
    Moves .idle t (.closed c.id c.request)
      ((t.unpark c.id).advance s (c.visit n) c.phase c.wake) := by
  have goesOn {st : Stage} (h : c.phase.goesOn? c.wake = some st) {u : Turn}
      (m : Moves (.inside (c.visit n) st) (t.unpark c.id) (.closed c.id c.request) u) :
      Moves .idle t (.closed c.id c.request) u := .head (.resume mem latch h (.inl awake)) m
  have line (hq : c.phase ≠ .queued) (hd : c.phase ≠ .draining) :
      (c.visit n).request.isLine = false := by
    by_contra hl
    have hl : c.request.isLine = true := eq_true_of_ne_false hl
    rcases lines c mem hl with h | h
    · exact hq h
    · exact hd h
  have woken (hi : c.wake ≠ .interrupted) : c.wake = .woken := by
    cases h : c.wake with
    | asleep => exact absurd h awake
    | woken => rfl
    | interrupted => exact absurd h hi
  unfold Turn.advance
  split
  · rename_i hp
    exact unqueue_moves t sane mem latch hp awake
  · rename_i pid hp
    exact goesOn (by rw [hp]; rfl)
      (stopped_moves _ sane _ (line (by simp [hp]) (by simp [hp])) (joins c mem pid hp awake))
  · rename_i hw hq hj
    refine goesOn ?_ (conclude_moves _ (c.visit n) .abandoned)
    rw [hw]
    cases hp : c.phase with
    | queued => exact absurd hp hq
    | joining pid => exact absurd hp (hj pid)
    | _ => rfl
  · rename_i pid hp hi
    refine goesOn (by rw [hp, woken hi]; rfl) ?_
    have hk (u : Turn) : Moves (.inside (c.visit n) (.holding pid)) u (.closed c.id c.request)
        (u.kill s (c.visit n) pid) :=
      kill_moves u sane (c.visit n) (line (by simp [hp]) (by simp [hp])) pid
    simp only
    split
    · exact hk _
    · exact .drift trivial (.say _ rfl rfl) (hk _)
  · rename_i pid hp hi
    exact goesOn (by rw [hp, woken hi]; rfl)
      (join_moves _ sane (c.visit n) (line (by simp [hp]) (by simp [hp])) pid)
  · rename_i hq hj hg hr hi
    cases hp : c.phase with
    | queued => exact absurd hp hq
    | joining pid => exact absurd hp (hj pid)
    | grace pid => exact absurd hp (hg pid)
    | reaping pid => exact absurd hp (hr pid)
    | spawning argv => exact absurd (unborn argv hp) hi
    | draining => exact goesOn (by rw [hp, woken hi]; rfl) (conclude_moves _ (c.visit n) .done)

theorem resume_moves (id : CallId) (lines : t.room.NoLineInside) (joins : t.room.JoinsEnded) :
    ∃ f, Moves .idle t f (t.resume s id) ∧ f.IsOver (some id) := by
  unfold Turn.resume
  split
  · exact ⟨.idle, .refl _ _, trivial⟩
  · rename_i c hc
    have mem := Room.mem_of_caller? hc
    have hid := Room.id_of_caller? hc
    subst hid
    split
    · exact ⟨.idle, .refl _ _, trivial⟩
    · exact ⟨.idle, .refl _ _, trivial⟩
    · rename_i hl awake woken
      exact ⟨_, .single (.forsake mem hl awake), rfl⟩
    · rename_i n hl awake woken
      refine ⟨_, advance_moves t sane mem hl awake ?_ lines joins, rfl⟩
      intro argv hp
      cases h : c.wake with
      | asleep => exact absurd h awake
      | woken => exact absurd h (woken argv hp)
      | interrupted => rfl

omit sane in
theorem launched_moves (id : CallId) (outcome : Except SpawnFault Birth)
    (fresh : ∀ b, outcome = .ok b → b.pid ∉ t.room.pids) (launches : t.room.OnlyLaunches) :
    ∃ f, Moves .idle t f (t.launched s id outcome) ∧ f.IsOver (some id) := by
  unfold Turn.launched
  split
  · rename_i cid request n argv wake hc
    have mem := Room.mem_of_caller? hc
    have hid := Room.id_of_caller? hc
    subst hid
    refine ⟨.closed cid request, ?_, rfl⟩
    simp only
    split
    · exact .head (.resume mem rfl rfl (.inr rfl)) (conclude_moves _ ⟨cid, request, n⟩ .abandoned)
    · rename_i fault hw
      have hg : (Phase.spawning argv).goesOn? wake = some .vacant := by
        cases wake with
        | interrupted => exact absurd rfl hw
        | _ => rfl
      refine .head (.resume mem rfl hg (.inr rfl))
        (.drift trivial ?_ (fail_moves _ ⟨cid, request, n⟩ (launches _ mem argv rfl) ?_))
      · exact .say _ rfl rfl
      · exact SpawnFault.trouble_ne_missingKey _ _ _
    · rename_i b hw
      have hg : (Phase.spawning argv).goesOn? wake = some .vacant := by
        cases wake with
        | interrupted => exact absurd rfl hw
        | _ => rfl
      exact .head (.resume mem rfl hg (.inr rfl))
        (record_moves _ ⟨cid, request, n⟩ _ argv b (fresh b rfl) (launches _ mem argv rfl))
  · exact ⟨.idle, .refl _ _, trivial⟩

omit sane in
theorem drained_moves (id : CallId) (isBroken : Bool) :
    ∃ f, Moves .idle t f (t.drained id isBroken) ∧ f.IsOver (some id) := by
  unfold Turn.drained
  split
  · rename_i cid line l hc
    have mem := Room.mem_of_caller? hc
    have hid := Room.id_of_caller? hc
    subst hid
    simp only
    split
    · exact ⟨_, .single (.drain mem rfl (.inr rfl)), rfl⟩
    · have hs : Drift t (t.say (.sent t.room.name line)) := .say t rfl rfl
      have hm : Move .idle (t.say (.sent t.room.name line)) _ _ := .drain mem rfl (.inl rfl)
      exact ⟨_, .drift trivial hs (.single hm), rfl⟩
  · exact ⟨.idle, .refl _ _, trivial⟩

omit sane in
theorem wake_drift (id : CallId) (nodup : t.room.ids.Nodup) : Drift t (t.wake id) := by
  unfold Turn.wake
  split
  · rename_i c hc
    split
    · rename_i hg
      have hp : (∃ pid, c.phase = .grace pid) ∧ c.wake = .asleep := by
        unfold Room.isInGrace at hg
        rw [hc] at hg
        split at hg
        · rename_i heq
          cases heq
          exact ⟨⟨_, rfl⟩, rfl⟩
        · cases hg
      refine Drift.trans ?_ (.ready _ _)
      have quiet : Quiet t { t with room := t.room.setCaller { c with wake := .woken } } :=
        .of_room rfl rfl ⟨[], rfl, by simp⟩
      refine ⟨?_, quiet.told⟩
      exact { Side.refl t with
        stirs := by
          change List.Forall₂ _ t.room.callers (t.room.callers.map _)
          rw [List.forall₂_map_right_iff]
          refine List.forall₂_same.mpr ?_
          intro d hd
          split
          · rename_i he
            have : d = c := List.inj_on_of_nodup_map nodup hd (Room.mem_of_caller? hc) he
            obtain ⟨pid, hq⟩ := hp.1
            subst this
            exact .inr ⟨hp.2, rfl, by rw [hq]; trivial⟩
          · exact .inl rfl }
    · exact .refl t
  · exact .refl t

end Lifecycle

def Action.isCancel : Action → Bool
  | .cancel _ => true
  | _ => false

/-- Where the call stands that an action is about, as far as that is clear from the action. -/
def Action.focus : Action → Focus
  | .begin id request => .calling id request
  | _ => .idle

/-- The call that goes on with an action. -/
def Action.subject? : Action → Option CallId
  | .begin id _ | .resume id | .launched id _ | .drained id _ => some id
  | _ => none

/-- The process that an action brings into being. -/
def Action.birth? : Action → Option Birth
  | .launched _ (.ok b) => some b
  | _ => none

/-- Every action but the giving up of a call is a chain of small steps. -/
theorem act_moves (r : Room) {s : Setting} (sane : s.Sane) (a : Action) (calm : a.isCancel = false)
    (birth : ∀ b, a.birth? = some b → b.pid ∉ r.pids) (nodup : r.ids.Nodup)
    (lines : r.NoLineInside) (launches : r.OnlyLaunches) (joins : r.JoinsEnded) :
    ∃ f, Moves a.focus { room := r } f (r.act s a) ∧ f.IsOver a.subject? := by
  have side {u : Turn} (h : Drift { room := r } u) :
      ∃ f, Moves .idle { room := r } f u ∧ f.IsOver a.subject? :=
    ⟨.idle, .single (.drift h (.inl trivial)), trivial⟩
  cases a with
  | begin id request => exact ⟨_, begin_moves _ sane id request, rfl⟩
  | resume id => exact resume_moves _ sane id lines joins
  | launched id outcome =>
    refine launched_moves _ id outcome ?_ launches
    rintro b rfl
    exact birth b rfl
  | wake id => exact side (wake_drift _ id nodup)
  | relay pid => exact side (.relay _ pid)
  | exit pid code => exact side (.exit _ pid code)
  | output pid portion => exact side (.output _ pid portion)
  | closeOutput pid => exact side (.closeOutput _ pid)
  | drained id isBroken => exact drained_moves _ id isBroken
  | cancel id => cases calm
  | clear => exact side (.clear _)
  | openDisplay => exact side (.openDisplay _)

end ToolHost.Session

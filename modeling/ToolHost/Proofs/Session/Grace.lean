import Mathlib
import ToolHost.Proofs.Session.RelayEnd
import ToolHost.Proofs.Session.Strokes

/-!
# Grace

What a process finds on its input are the lines that were written to it, and then the end if that
has come. A recorded process finds no end, and neither its relay nor that of a process in its grace
period is told to end. A call that gives a process time asks to be woken when the time is over; as
long as nobody gives up, it is woken for nothing but that, or because the relay has ended.
-/
namespace ToolHost

open Machine (Bytes)

namespace Happening

/-- What a process finds on its input: a piece, or the end. -/
def fed? (pid : Pid) : Happening → Option (Option Bytes)
  | .wrote _ p piece => if p = pid then some (some piece) else none
  | .inputClosed p => if p = pid then some none else none
  | _ => none

/-- What is written to a process. -/
def piece? (pid : Pid) : Happening → Option Bytes
  | .wrote _ p piece => if p = pid then some piece else none
  | _ => none

end Happening

namespace Session

/-- All that a process has found on its input, in order. -/
def fed (pid : Pid) (xs : List Happening) : List (Option Bytes) := recount (·.fed? pid) xs

/-- All that was written to a process, in order. -/
def pieces (pid : Pid) (xs : List Happening) : List Bytes := recount (·.piece? pid) xs

theorem fed_cons (pid : Pid) (x : Happening) (xs : List Happening) :
    fed pid (x :: xs) = fed pid xs ++ (x.fed? pid).toList := recount_cons x xs

theorem pieces_cons (pid : Pid) (x : Happening) (xs : List Happening) :
    pieces pid (x :: xs) = pieces pid xs ++ (x.piece? pid).toList := recount_cons x xs

/-- What tells nothing of inputs. -/
theorem fed_append_of_none {xs : List Happening} {pid : Pid}
    (h : ∀ x ∈ xs, x.fed? pid = none ∧ x.piece? pid = none) (ys : List Happening) :
    fed pid (xs ++ ys) = fed pid ys ∧ pieces pid (xs ++ ys) = pieces pid ys := by
  have feeds : recount (·.fed? pid) xs = [] := recount_eq_nil fun x hx => (h x hx).1
  have writes : recount (·.piece? pid) xs = [] := recount_eq_nil fun x hx => (h x hx).2
  simp [fed, pieces, feeds, writes]

/-! ## Inputs and relays -/

/-- What is known of the inputs and the relays of processes as long as nobody gives up. -/
structure Tended (r : Room) (xs : List Happening) : Prop where
  fed : ∀ p ∈ r.pids, fed p xs =
    (pieces p xs).map some ++ if (r.child p).inputClosed then [none] else []
  unfed : ∀ p, p ∉ r.pids → Session.fed p xs = [] ∧ pieces p xs = []
  recorded : ∀ p, r.recorded = some p → r.pids.getLast? = some p ∧
    (r.child p).inputClosed = false ∧ (r.child p).relay.isCancelled = false
  waiting : ∀ c ∈ r.callers, ∀ p, c.phase = .grace p → r.pids.getLast? = some p ∧
    (r.child p).relay.isCancelled = false
  wards : ∀ c ∈ r.callers, ∀ p, c.phase.ward? = some p → p ∈ r.pids

namespace Tended

variable {d : Deed} {t u : Turn} {r q : Room} {xs ys : List Happening}

theorem known (h : Tended r xs) : Known r :=
  ⟨fun p hp => List.mem_of_getLast? (h.recorded p hp).1, h.wards⟩

/-- Nothing is found on an input, and no relay that matters is told to end. -/
theorem congr (h : Tended r ys) (told : ∀ p, Session.fed p xs = Session.fed p ys ∧
    pieces p xs = pieces p ys) (pids : q.pids = r.pids)
    (inputs : ∀ p, (q.child p).inputClosed = (r.child p).inputClosed)
    (recorded : q.recorded = none ∨ q.recorded = r.recorded)
    (cancelled : q.recorded = none ∧ q.NoGrace ∨
      ∀ p, (q.child p).relay.isCancelled = (r.child p).relay.isCancelled)
    (callers : ∀ c ∈ q.callers, c.IsSteady r ∨ ∃ b ∈ r.callers, c.phase = b.phase) :
    Tended q xs where
  fed p hp := by
    rw [(told p).1, (told p).2, inputs]
    exact h.fed p (pids ▸ hp)
  unfed p hp := by
    rw [(told p).1, (told p).2]
    exact h.unfed p (pids ▸ hp)
  recorded p hp := by
    rcases recorded with none | same
    · rw [none] at hp
      cases hp
    · obtain ⟨last, opened, heeded⟩ := h.recorded p (same ▸ hp)
      refine ⟨pids ▸ last, (inputs p).trans opened, ?_⟩
      rcases cancelled with ⟨none, -⟩ | same
      · rw [none] at hp
        cases hp
      · exact (same p).trans heeded
  waiting c hc p hp := by
    rcases cancelled with ⟨-, alone⟩ | same
    · exact absurd hp (alone c hc p)
    · rw [pids, same p]
      rcases callers c hc with (hc | ⟨other, -⟩) | ⟨b, hb, phase⟩
      · exact h.waiting c hc p hp
      · exact absurd hp (other p)
      · exact h.waiting b hb p (phase ▸ hp)
  wards c hc p hp := by
    rw [pids]
    rcases callers c hc with (hc | ⟨-, ward⟩) | ⟨b, hb, phase⟩
    · exact h.wards c hc p hp
    · rcases ward p hp with mem | ⟨b, hb, ward⟩
      · exact mem
      · exact h.wards b hb p ward
    · exact h.wards b hb p (phase ▸ hp)

/-- Something is told that has nothing to do with inputs. -/
theorem say {x : Happening} (h : Tended r xs)
    (none : ∀ pid, x.fed? pid = .none ∧ x.piece? pid = .none) : Tended r (x :: xs) :=
  h.congr (fun p => @fed_append_of_none [x] p (by simpa using none p) xs) rfl (fun _ => rfl)
    (.inr rfl) (.inr fun _ => rfl) fun _ hc => .inl (.inl hc)

theorem mild (h : Tended t.room (t.trace ++ xs)) (m : Mild t u) :
    Tended u.room (u.trace ++ xs) := by
  obtain ⟨news, trace, mild⟩ := m.trace
  refine h.congr (fun p => ?_) m.pids (fun p => (m.spared p).inputClosed) (.inr m.recorded)
    (.inr fun p => (m.spared p).isCancelled) fun c hc => .inl (m.callers c hc)
  rw [trace, List.append_assoc]
  refine fed_append_of_none (fun x hx => ?_) _
  have none := mild x hx
  cases x with
  | wrote _ _ _ => cases none
  | inputClosed _ => cases none
  | _ => exact ⟨rfl, rfl⟩

/-- A record is taken away. -/
theorem pop (h : Tended t.room (t.trace ++ xs)) (pid : Pid) :
    Tended (t.pop pid).room ((t.pop pid).trace ++ xs) := by
  have same (p : Pid) : ((t.pop pid).room.child p).inputClosed =
      (t.room.child p).inputClosed ∧
      ((t.pop pid).room.child p).relay.isCancelled = (t.room.child p).relay.isCancelled := by
    rw [Turn.child_pop]
    split <;> exact ⟨rfl, rfl⟩
  exact h.congr (fun _ => ⟨rfl, rfl⟩) (t.pids_pop pid) (fun p => (same p).1) (.inl rfl)
    (.inr fun p => (same p).2) fun _ hc => .inl (.inl hc)

/-- The input of a process is closed that is not recorded. -/
theorem closeInput (h : Tended t.room (t.trace ++ xs)) {pid : Pid} (mem : pid ∈ t.room.pids)
    (vacant : t.room.recorded = none) :
    Tended (t.closeInput pid).room ((t.closeInput pid).trace ++ xs) := by
  unfold Turn.closeInput
  simp only
  split
  · next isOpen =>
    rw [Bool.and_eq_true] at isOpen
    have isOpen : (t.child pid).inputClosed = false := by simpa using isOpen.2
    change (t.room.child pid).inputClosed = false at isOpen
    let closed : Child := { t.child pid with inputClosed := true }
    have own : closed.pid = pid := t.room.child_pid pid
    have child (p : Pid) : (t.room.setChild closed).child p =
        if p = pid then closed else t.room.child p := by
      rw [Room.child_setChild, own]
      by_cases same : p = pid
      · rw [if_pos ⟨same, same ▸ mem⟩, if_pos same]
      · rw [if_neg fun k => same k.1, if_neg same]
    have pids : (t.room.setChild closed).pids = t.room.pids := t.room.pids_setChild _
    have cancelled (p : Pid) : ((t.room.setChild closed).child p).relay.isCancelled =
        (t.room.child p).relay.isCancelled := by
      rw [child]
      split
      · next same => rw [same]; rfl
      · rfl
    change Tended (t.room.setChild closed) (.inputClosed pid :: (t.trace ++ xs))
    refine ⟨fun p hp => ?_, fun p hp => ?_, fun p hp => ?_, fun c hc p hp => ?_, fun c hc p hp => ?_⟩
    · have before := h.fed p (pids ▸ hp)
      rw [fed_cons, pieces_cons, child, before]
      by_cases same : p = pid
      · rw [same, isOpen, if_pos rfl]
        simp [Happening.fed?, Happening.piece?, closed]
      · rw [if_neg same]
        simp [Happening.fed?, Happening.piece?, Ne.symm same]
    · rw [pids] at hp
      have ne : pid ≠ p := fun e => hp (e ▸ mem)
      rw [fed_cons, pieces_cons, (h.unfed p hp).1, (h.unfed p hp).2]
      simp [Happening.fed?, Happening.piece?, ne]
    · have none : t.room.recorded = some p := hp
      rw [vacant] at none
      cases none
    · rw [pids, cancelled]
      exact h.waiting c hc p hp
    · rw [pids]
      exact h.wards c hc p hp
  · exact h

/-- A line is written to the recorded process. -/
theorem write (h : Tended r xs) (id : CallId) {pid : Pid} (piece : Bytes)
    (recorded : r.recorded = some pid) : Tended r (.wrote id pid piece :: xs) where
  fed p hp := by
    have before := h.fed p hp
    rw [fed_cons, pieces_cons, before]
    by_cases same : p = pid
    · rw [same, (h.recorded pid recorded).2.1]
      simp [Happening.fed?, Happening.piece?]
    · simp [Happening.fed?, Happening.piece?, Ne.symm same]
  unfed p hp := by
    have ne : pid ≠ p := fun e => hp (e ▸ h.known.recorded pid recorded)
    rw [fed_cons, pieces_cons, (h.unfed p hp).1, (h.unfed p hp).2]
    simp [Happening.fed?, Happening.piece?, ne]
  recorded := h.recorded
  waiting := h.waiting
  wards := h.wards

/-- A call gives the process time that was recorded last. -/
theorem await (h : Tended r xs) (k : Tended d.room ys) {c : Caller} {pid : Pid}
    (recorded : d.room.recorded = some pid) (pids : r.pids = d.room.pids)
    (cancelled : (r.child pid).relay.isCancelled = (d.room.child pid).relay.isCancelled)
    (phase : c.phase = .grace pid) (callers : q.callers = r.callers ++ [c])
    (children : q.children = r.children) (same : q.recorded = r.recorded) : Tended q xs := by
  obtain ⟨last, -, heeded⟩ := k.recorded pid recorded
  have child := Room.child_congr children
  have mem := List.mem_of_getLast? last
  refine ⟨fun p hp => ?_, fun p hp => ?_, fun p hp => ?_, fun b hb p hp => ?_, fun b hb p hp => ?_⟩
  · rw [child]
    exact h.fed p (Room.pids_congr children ▸ hp)
  · exact h.unfed p (Room.pids_congr children ▸ hp)
  · rw [Room.pids_congr children, child]
    exact h.recorded p (same ▸ hp)
  · rw [Room.pids_congr children, child]
    rw [callers] at hb
    rcases List.mem_append.mp hb with hb | hb
    · exact h.waiting b hb p hp
    · obtain rfl := List.mem_singleton.mp hb
      obtain rfl : pid = p := by simpa using phase.symm.trans hp
      exact ⟨pids ▸ last, cancelled.trans heeded⟩
  · rw [Room.pids_congr children]
    rw [callers] at hb
    rcases List.mem_append.mp hb with hb | hb
    · exact h.wards b hb p hp
    · obtain rfl := List.mem_singleton.mp hb
      rw [phase] at hp
      obtain rfl : pid = p := Option.some.inj hp
      exact pids ▸ mem

/-- A new process has found nothing on its input. -/
theorem adopt (h : Tended r xs) (dir : Machine.Path) {b : Birth} (fresh : b.pid ∉ r.pids)
    (alone : r.NoGrace) : Tended (r.adopt dir b) xs := by
  refine ⟨fun p hp => ?_, fun p hp => ?_, fun p hp => ?_, fun c hc p hp => ?_, fun c hc p hp => ?_⟩
  · rw [Room.child_adopt fresh]
    split
    · next same =>
      obtain ⟨feeds, writes⟩ := h.unfed p (same ▸ fresh)
      rw [feeds, writes]
      rfl
    · next ne =>
      rw [Room.pids_adopt, List.mem_append, List.mem_singleton] at hp
      exact h.fed p (hp.resolve_right ne)
  · rw [Room.pids_adopt, List.mem_append, not_or] at hp
    exact h.unfed p hp.1
  · cases hp
    rw [Room.child_adopt fresh, if_pos rfl, Room.pids_adopt, List.getLast?_concat]
    exact ⟨rfl, rfl, rfl⟩
  · exact absurd hp (alone c hc p)
  · rw [Room.pids_adopt]
    exact List.mem_append_left _ (h.wards c hc p hp)

end Tended

theorem Stroke.tended {d : Deed} {t u : Turn} (s : Stroke d t u) {past : List Happening}
    (start : Tended d.room past) (h : Tended t.room (t.trace ++ past)) :
    Tended u.room (u.trace ++ past) := by
  cases s with
  | mild m => exact h.mild m
  | utter pid portion isOpen => exact h.say fun _ => ⟨rfl, rfl⟩
  | wake c action room mem asleep =>
    refine h.congr (fun _ => ⟨rfl, rfl⟩) rfl (fun _ => rfl) (.inr rfl) (.inr fun _ => rfl) ?_
    intro b hb
    obtain ⟨a, ha, rfl⟩ := List.mem_map.mp hb
    refine .inr ?_
    split
    · exact ⟨c, room ▸ mem, rfl⟩
    · exact ⟨a, ha, rfl⟩
  | write id pid piece recorded => exact h.write id piece recorded
  | drop v pid enters recorded hurries => exact h.pop pid
  | yield v pid enters recorded =>
    have mem : pid ∈ (t.pop pid).room.pids := (t.pids_pop pid).symm ▸ h.known.recorded pid recorded
    exact (h.pop pid).closeInput mem rfl
  | closeInput pid mem vacant => exact h.closeInput mem vacant
  | cancelRelay pid alone vacant =>
    have spared : ∀ p, ((t.room.setChild (t.child pid).cancelRelay.1).child p).inputClosed =
        (t.room.child p).inputClosed := by
      have own : (t.child pid).cancelRelay.1.pid = pid ∧
          (t.child pid).cancelRelay.1.inputClosed = (t.child pid).inputClosed := by
        unfold Child.cancelRelay
        split <;> exact ⟨t.room.child_pid pid, rfl⟩
      intro p
      rw [Room.child_setChild]
      split
      · next same =>
        rw [same.1, own.1]
        exact own.2
      · rfl
    exact h.congr (fun _ => ⟨rfl, rfl⟩) (t.room.pids_setChild _) spared (.inr rfl)
      (.inl ⟨vacant, alone⟩) fun _ hc => .inl (.inl hc)
  | kill pid slays => exact h.say fun _ => ⟨rfl, rfl⟩
  | await v pid enters recorded pids cancelled vacant =>
    exact h.await start recorded pids cancelled rfl rfl rfl rfl
  | adopt dir b fresh alone vacant => exact h.adopt dir fresh alone

/-! ## What a deed does -/

/-- A process at a later time: what was closed or stopped stays so. -/
structure Child.Follows (c d : Child) : Prop where
  traits : d.traits = c.traits
  isStopped : c.isStopped → d.isStopped
  inputClosed : c.inputClosed → d.inputClosed
  outputClosed : c.outputClosed → d.outputClosed

theorem Child.Spared.follows {c d : Child} (h : c.Spared d) : c.Follows d :=
  ⟨h.traits, fun k => h.isStopped ▸ k, fun k => h.inputClosed ▸ k, h.outputClosed⟩

theorem Child.Follows.trans {a b c : Child} (h : a.Follows b) (k : b.Follows c) : a.Follows c :=
  ⟨k.traits.trans h.traits, k.isStopped ∘ h.isStopped, k.inputClosed ∘ h.inputClosed,
    k.outputClosed ∘ h.outputClosed⟩

theorem Turn.follows_pop (t : Turn) (pid p : Pid) :
    (t.room.child p).Follows ((t.pop pid).room.child p) := by
  rw [child_pop]
  split
  · exact ⟨rfl, fun _ => rfl, id, id⟩
  · exact ⟨rfl, id, id, id⟩

theorem Turn.follows_closeInput (t : Turn) (pid p : Pid) :
    (t.room.child p).Follows ((t.closeInput pid).room.child p) := by
  rw [child_closeInput]
  split
  · exact ⟨rfl, id, fun closed => by simp [closed], id⟩
  · exact ⟨rfl, id, id, id⟩

namespace Stroke

variable {d : Deed} {t u : Turn}

/-- A process that there is stays what it is. -/
theorem follows (s : Stroke d t u) {p : Pid} (mem : p ∈ t.room.pids) :
    p ∈ u.room.pids ∧ (t.room.child p).Follows (u.room.child p) := by
  have still : (t.room.child p).Follows (t.room.child p) := (Child.Spared.refl _).follows
  cases s with
  | mild m => exact ⟨m.pids.symm ▸ mem, (m.spared p).follows⟩
  | drop v pid => exact ⟨(t.pids_pop pid).symm ▸ mem, t.follows_pop pid p⟩
  | yield v pid =>
    have pids := (Side.closeInput (t.pop pid) pid).pids.trans (t.pids_pop pid)
    exact ⟨pids.symm ▸ mem, (t.follows_pop pid p).trans ((t.pop pid).follows_closeInput pid p)⟩
  | closeInput pid => exact ⟨(Side.closeInput t pid).pids.symm ▸ mem, t.follows_closeInput pid p⟩
  | cancelRelay pid =>
    have own : (t.child pid).cancelRelay.1.pid = pid ∧
        (t.child pid).Follows (t.child pid).cancelRelay.1 := by
      unfold Child.cancelRelay
      split <;> exact ⟨t.room.child_pid pid, rfl, id, id, id⟩
    refine ⟨(t.room.pids_setChild _).symm ▸ mem, ?_⟩
    change (t.room.child p).Follows ((t.room.setChild _).child p)
    rw [Room.child_setChild]
    split
    · next same =>
      rw [same.1, own.1]
      exact own.2
    · exact still
  | adopt dir b fresh =>
    refine ⟨(t.room.pids_adopt dir b).symm ▸ List.mem_append_left _ mem, ?_⟩
    change (t.room.child p).Follows ((t.room.adopt dir b).child p)
    have ne : p ≠ b.pid := fun e => fresh (e ▸ mem)
    rw [Room.child_adopt fresh, if_neg ne]
    exact still
  | _ => exact ⟨mem, still⟩

/-- A process that is not recorded any more is not recorded again. -/
theorem gone (s : Stroke d t u) {p : Pid} (mem : p ∈ t.room.pids)
    (h : t.room.recorded ≠ some p) : u.room.recorded ≠ some p := by
  cases s with
  | mild m => exact m.recorded ▸ h
  | drop v pid => exact nofun
  | yield v pid => exact (Side.closeInput (t.pop pid) pid).recorded ▸ nofun
  | closeInput pid => exact (Side.closeInput t pid).recorded ▸ h
  | adopt dir b fresh =>
    intro same
    cases same
    exact fresh mem
  | _ => exact h

/-- A process is killed for a reason, and when it is not recorded any more. -/
theorem killed (s : Stroke d t u) {p : Pid} (h : .killed p ∈ u.trace) :
    .killed p ∈ t.trace ∨ d.Slays p ∧ p ∈ u.room.pids ∧ u.room.recorded = none := by
  have closed (v : Turn) (trace : v.trace = t.trace) (pid : Pid)
      (h : .killed p ∈ (v.closeInput pid).trace) : .killed p ∈ t.trace := by
    rcases v.trace_closeInput pid with same | tells
    · exact trace ▸ same ▸ h
    · rw [tells] at h
      exact trace ▸ (List.mem_cons.mp h).resolve_left nofun
  cases s with
  | mild m =>
    obtain ⟨news, trace, mild⟩ := m.trace
    rw [trace] at h
    rcases List.mem_append.mp h with h | h
    · exact nomatch mild _ h
    · exact .inl h
  | utter | write => exact .inl ((List.mem_cons.mp h).resolve_left nofun)
  | yield v pid => exact .inl (closed (t.pop pid) rfl pid h)
  | closeInput pid => exact .inl (closed t rfl pid h)
  | kill pid slays mem vacant =>
    rcases List.mem_cons.mp h with e | h
    · cases e
      exact .inr ⟨slays, mem, vacant⟩
    · exact .inl h
  | _ => exact .inl h

/-- A call that asks to be woken comes in, and asks for the time that is given. -/
theorem alarms (s : Stroke d t u)
    (h : ∀ a ∈ t.alarms, a.2 = d.setting.grace.length ∧ ∃ q, d.Enters a.1 q) :
    ∀ a ∈ u.alarms, a.2 = d.setting.grace.length ∧ ∃ q, d.Enters a.1 q := by
  cases s with
  | mild m => exact m.alarms.symm ▸ h
  | yield v pid => exact ((t.pop pid).alarms_closeInput pid).symm ▸ h
  | closeInput pid => exact (t.alarms_closeInput pid).symm ▸ h
  | await v pid enters =>
    intro a ha
    rcases List.mem_append.mp ha with ha | ha
    · exact h a ha
    · rw [List.mem_singleton.mp ha]
      exact ⟨rfl, v.request, enters⟩
  | _ => exact h

end Stroke

/-- How a call has come to be in its grace period: it was, or was just woken, or it has just taken
away the record of the process and asked to be woken when the time is over. -/
inductive Deed.Grants (d : Deed) (alarms : List (CallId × Seconds)) (pid : Pid) (c : Caller) :
    Prop
  | before (mem : c ∈ d.room.callers)
  | woken (action : d.action = .wake c.id) (b : Caller) (mem : b ∈ d.room.callers)
      (id : b.id = c.id) (phase : b.phase = .grace pid) (asleep : b.wake = .asleep)
  | now (recorded : d.room.recorded = some pid)
      (alarm : (c.id, d.setting.grace.length) ∈ alarms) (asleep : c.wake = .asleep)

theorem Stroke.grants {d : Deed} {t u : Turn} (s : Stroke d t u)
    (h : ∀ c ∈ t.room.callers, ∀ pid, c.phase = .grace pid → d.Grants t.alarms pid c) :
    ∀ c ∈ u.room.callers, ∀ pid, c.phase = .grace pid → d.Grants u.alarms pid c := by
  cases s with
  | mild m =>
    intro c hc pid phase
    rw [m.alarms]
    rcases m.callers c hc with hc | ⟨other, -⟩
    · exact h c hc pid phase
    · exact absurd phase (other pid)
  | wake b action room mem asleep =>
    intro c hc pid phase
    obtain ⟨a, ha, rfl⟩ := List.mem_map.mp hc
    split at phase
    · next same =>
      rw [if_pos same]
      exact .woken action b mem rfl phase asleep
    · next ne =>
      rw [if_neg ne]
      exact h a ha pid phase
  | yield v pid =>
    rw [Turn.alarms_closeInput, Turn.callers_closeInput]
    exact h
  | closeInput pid =>
    rw [Turn.alarms_closeInput, Turn.callers_closeInput]
    exact h
  | await v pid enters recorded =>
    intro c hc p phase
    rcases List.mem_append.mp hc with hc | hc
    · cases h c hc p phase with
      | before mem => exact .before mem
      | woken action b mem id phase asleep => exact .woken action b mem id phase asleep
      | now recorded alarm asleep =>
        exact .now recorded (List.mem_append_left _ alarm) asleep
    · rw [List.mem_singleton.mp hc] at phase ⊢
      cases phase
      exact .now recorded (List.mem_append_right _ (List.mem_singleton_self _)) rfl
  | _ => exact h

/-- A process whose session is stopped, and whose input is closed if it has one. -/
def Shut (r : Room) (pid : Pid) : Prop :=
  pid ∈ r.pids ∧ (r.child pid).isStopped ∧
    ((r.child pid).traits.hasInput → (r.child pid).inputClosed)

/-- What takes away the record of a process that is given time closes its input as well. -/
theorem Stroke.shut {d : Deed} {t u : Turn} (s : Stroke d t u) {pid : Pid}
    (patient : ∀ id q, d.Enters id q → ¬ d.Hurries q pid) (mem : pid ∈ t.room.pids)
    (h : t.room.recorded = some pid ∨ Shut t.room pid) :
    u.room.recorded = some pid ∨ Shut u.room pid := by
  have keep (k : Shut t.room pid) : Shut u.room pid := by
    obtain ⟨mem, stopped, closed⟩ := k
    obtain ⟨there, follows⟩ := s.follows mem
    exact ⟨there, follows.isStopped stopped,
      fun input => follows.inputClosed (closed (follows.traits ▸ input))⟩
  rcases h with recorded | k
  · cases s with
    | mild m => exact .inl (m.recorded.trans recorded)
    | drop v p enters same hurries =>
      obtain rfl := Option.some.inj (same.symm.trans recorded)
      exact absurd hurries (patient _ _ enters)
    | yield v p enters same =>
      obtain rfl := Option.some.inj (same.symm.trans recorded)
      have pids := t.pids_pop p
      have popped := Turn.child_pop t p p
      rw [if_pos ⟨rfl, mem⟩] at popped
      have closed := Turn.child_closeInput (t.pop p) p p
      rw [if_pos ⟨rfl, pids.symm ▸ mem⟩, popped] at closed
      refine .inr ⟨(Side.closeInput (t.pop p) p).pids.trans pids ▸ mem, ?_, ?_⟩
      · rw [closed]
      · rw [closed]
        intro input
        exact Bool.or_eq_true_iff.mpr (.inl input)
    | closeInput p there vacant => rw [vacant] at recorded; cases recorded
    | adopt dir b fresh alone vacant => rw [vacant] at recorded; cases recorded
    | _ => exact .inl recorded
  · exact .inr (keep k)

/-- A process whose output has ended writes no more. -/
theorem Stroke.spent {d : Deed} {t u : Turn} (s : Stroke d t u) {pid : Pid}
    {past : List Happening} (h : pid ∈ t.room.pids ∧ (t.room.child pid).outputClosed ∧
      uttered pid (t.trace ++ past) = []) :
    pid ∈ u.room.pids ∧ (u.room.child pid).outputClosed ∧ uttered pid (u.trace ++ past) = [] := by
  obtain ⟨mem, closed, silent⟩ := h
  obtain ⟨there, follows⟩ := s.follows mem
  refine ⟨there, follows.outputClosed closed, ?_⟩
  have closes (v : Turn) (trace : v.trace = t.trace) (p : Pid) :
      uttered pid ((v.closeInput p).trace ++ past) = [] := by
    rcases v.trace_closeInput p with same | tells
    · rw [same, trace]
      exact silent
    · rw [tells, trace]
      exact (recount_cons _ _).trans ((List.append_nil _).trans silent)
  cases s with
  | mild m =>
    obtain ⟨news, trace, mild⟩ := m.trace
    have none : recount (·.uttered? pid) news = [] := recount_eq_nil fun x hx => by
      have hm := mild x hx
      cases x with
      | uttered => cases hm
      | _ => rfl
    rw [trace, List.append_assoc, uttered, recount_append, none]
    exact (List.append_nil _).trans silent
  | utter p portion isOpen =>
    have ne : p ≠ pid := by
      rintro rfl
      change (t.child p).outputClosed = true at closed
      rw [isOpen] at closed
      cases closed
    have none : (Happening.uttered p portion).uttered? pid = none := if_neg ne
    change recount _ (.uttered p portion :: (t.trace ++ past)) = []
    rw [recount_cons, none]
    exact (List.append_nil _).trans silent
  | yield v p => exact closes (t.pop p) rfl p
  | closeInput p => exact closes t rfl p
  | write | kill => exact (recount_cons _ _).trans ((List.append_nil _).trans silent)
  | _ => exact silent

/-! ## Courses -/

namespace Course

variable {name : SessionName} {ds : List Deed} {r : Room}

/-- All that is done in a room in which nobody gives up, told by strokes. -/
theorem strokes (c : Course name ds r) (calm : Calm ds) (tended : Tended r (log ds)) {s : Setting}
    {a : Action} (call : ∀ q, a.call? = some q → q.1 ∉ (calls ds).map (·.1))
    (birth : ∀ b, a.birth? = some b → b.pid ∉ r.pids) (still : a.isCancel = false) :
    Strokes ⟨r, s, a⟩ { room := r } (r.act s a) :=
  act_strokes (d := ⟨r, s, a⟩) still c.sound (c.fits call birth) (c.tidy calm) tended.known

theorem tended (c : Course name ds r) (calm : Calm ds) : Tended r (log ds) := by
  induction c with
  | start => exact ⟨nofun, fun _ _ => ⟨rfl, rfl⟩, nofun, nofun, nofun⟩
  | act c s sane a call birth ih =>
    rename_i ds r
    have start := ih calm.tail
    have strokes := c.strokes calm.tail start call birth (s := s) (calm _ List.mem_cons_self)
    exact strokes.preserves (P := fun t => Tended t.room (t.trace ++ log ds))
      (fun k h => k.tended start h) start

/-- What every stroke of a deed preserves, the deed does. -/
theorem deed_preserves {P : Turn → Prop} (c : Course name ds r) (calm : Calm ds) {d : Deed}
    (hd : d ∈ ds) (step : ∀ {t u}, Stroke d t u → P t → P u) (start : P { room := d.room }) :
    P d.turn := by
  induction c with
  | start => cases hd
  | act c s sane a call birth ih =>
    rename_i ds r
    rcases List.mem_cons.mp hd with rfl | hd
    · have strokes := c.strokes calm.tail (c.tended calm.tail) call birth (s := s)
        (calm _ List.mem_cons_self)
      exact strokes.preserves step start
    · exact ih calm.tail hd

end Course

end Session

end ToolHost

import Mathlib
import ToolHost.Proofs.Session.Grace
import ToolHost.Proofs.Session.Queue
import ToolHost.Proofs.Session.Trailing

/-!
# Processes that are given time

A process that is given time finds on its input what was written to it before, and then the end;
nothing is written to it any more. Whoever kills it has waited for its relay until woken because
the time was over. And a relay that has read the output to its end before that has put all of it on
display.
-/
namespace ToolHost.Session

open Machine (Bytes)

/-- Two ways of taking a list apart at one of its members. -/
theorem split_cases {α : Type} {xs ys zs ws : List α} {a b : α}
    (h : xs ++ a :: ys = zs ++ b :: ws) :
    (xs = zs ∧ a = b ∧ ys = ws) ∨ (∃ us, zs = xs ++ a :: us) ∨ ∃ us, xs = zs ++ b :: us := by
  rcases List.append_eq_append_iff.mp h with ⟨us, hz, hs⟩ | ⟨us, hx, hs⟩
  · cases us with
    | nil =>
      obtain ⟨rfl, rfl⟩ := List.cons.inj (by simpa using hs)
      exact .inl ⟨by simpa using hz.symm, rfl, rfl⟩
    | cons c us =>
      obtain ⟨rfl, -⟩ := List.cons.inj hs
      exact .inr (.inl ⟨us, hz⟩)
  · cases us with
    | nil =>
      obtain ⟨rfl, rfl⟩ := List.cons.inj (by simpa using hs)
      exact .inl ⟨by simpa using hx, rfl, rfl⟩
    | cons c us =>
      obtain ⟨rfl, -⟩ := List.cons.inj hs
      exact .inr (.inr ⟨us, hx⟩)

/-- What later deeds tell comes after what earlier ones tell. -/
theorem recount_log_append {α : Type} (f : Happening → Option α) (later ds : List Deed) :
    recount f (log (later ++ ds)) = recount f (log ds) ++ recount f (log later) := by
  rw [log, List.flatMap_append, recount_append]
  rfl

/-- A call that comes in has waited for nothing but the latch. -/
theorem Deed.Enters.queued {d : Deed} {id : CallId} {q : Request} (h : d.Enters id q)
    (fits : d.action.Fits d.room) (nodup : d.room.ids.Nodup) {c : Caller}
    (mem : c ∈ d.room.callers) (same : c.id = id) : c.phase = .queued := by
  rcases h with begins | ⟨-, b, hb, hid, -, queued⟩
  · have fresh := fits.call (id, q) (by rw [begins]; rfl)
    exact absurd (same ▸ List.mem_map_of_mem mem) fresh
  · rwa [List.inj_on_of_nodup_map nodup mem hb (same.trans hid.symm)]

/-- A deed takes away the record of a process that is given time. -/
structure Deed.Yields (d : Deed) (pid : Pid) : Prop where
  recorded : d.room.recorded = some pid
  taken : d.turn.room.recorded ≠ some pid
  patient : ∀ id q, d.Enters id q → ¬ d.Hurries q pid

/-- A call waits for the relay of a process, or for its time to run out. -/
def Room.Awaits (r : Room) (id : CallId) (pid : Pid) : Prop :=
  ∃ c ∈ r.callers, c.id = id ∧ c.phase = .grace pid

instance (r : Room) (id : CallId) (pid : Pid) : Decidable (r.Awaits id pid) :=
  inferInstanceAs (Decidable (∃ c ∈ r.callers, _))

/-- A deed wakes a call that is asleep and waits for the relay of a process, or for its time to
run out. -/
structure Deed.Rouses (d : Deed) (id : CallId) (pid : Pid) : Prop where
  action : d.action = .wake id
  asleep : ∃ c ∈ d.room.callers, c.id = id ∧ c.phase = .grace pid ∧ c.wake = .asleep

theorem Deed.Rouses.awaits {d : Deed} {id : CallId} {pid : Pid} (h : d.Rouses id pid) :
    d.room.Awaits id pid :=
  h.asleep.imp fun _ ⟨mem, same, phase, _⟩ => ⟨mem, same, phase⟩

namespace Course

variable {name : SessionName} {ds later earlier upper lower : List Deed} {d e : Deed} {r q : Room}

/-! ### What comes after -/

/-- What every stroke preserves, later deeds preserve. -/
theorem lasts {P : Room → List Happening → Prop} (k : Course name (later ++ ds) q)
    (c : Course name ds r) (calm : Calm (later ++ ds))
    (step : ∀ {d t u}, Stroke d t u → ∀ {past}, P t.room (t.trace ++ past) →
      P u.room (u.trace ++ past)) (start : P r []) : P q (log later) := by
  induction later generalizing q with
  | nil =>
    rw [c.room_unique k]
    exact start
  | cons m later ih =>
    have whole := k
    cases k with
    | act k s sane a call birth =>
      exact whole.deed_preserves (P := fun t => P t.room (t.trace ++ log later)) calm
        List.mem_cons_self (fun stroke h => step stroke h) (ih k calm.tail)

/-- A process that there is stays what it is. -/
theorem follows (k : Course name (later ++ ds) q) (c : Course name ds r)
    (calm : Calm (later ++ ds)) {p : Pid} (mem : p ∈ r.pids) :
    p ∈ q.pids ∧ (r.child p).Follows (q.child p) :=
  k.lasts (P := fun q _ => p ∈ q.pids ∧ (r.child p).Follows (q.child p)) c calm
    (fun stroke _ h => ⟨(stroke.follows h.1).1, h.2.trans (stroke.follows h.1).2⟩)
    ⟨mem, (Child.Spared.refl _).follows⟩

/-- A process that is not recorded any more is not recorded again. -/
theorem stays_unrecorded (k : Course name (later ++ ds) q) (c : Course name ds r)
    (calm : Calm (later ++ ds)) {p : Pid} (mem : p ∈ r.pids) (free : r.recorded ≠ some p) :
    q.recorded ≠ some p :=
  (k.lasts (P := fun q _ => p ∈ q.pids ∧ q.recorded ≠ some p) c calm
    (fun stroke _ h => ⟨(stroke.follows h.1).1, stroke.gone h.1 h.2⟩) ⟨mem, free⟩).2

theorem stays_shut (k : Course name (later ++ ds) q) (c : Course name ds r)
    (calm : Calm (later ++ ds)) {p : Pid} (shut : Shut r p) : Shut q p := by
  obtain ⟨mem, stopped, closed⟩ := shut
  obtain ⟨there, follows⟩ := k.follows c calm mem
  exact ⟨there, follows.isStopped stopped,
    fun input => follows.inputClosed (closed (follows.traits ▸ input))⟩

/-- The room after a deed. -/
theorem upTo (c : Course name (later ++ d :: earlier) r) :
    Course name (d :: earlier) d.turn.room := by
  obtain ⟨past, sane, call, fits⟩ := c.back
  exact past.act d.setting sane d.action call fits.birth

/-- A process whose output has ended writes no more. -/
theorem spent (k : Course name (later ++ ds) q) (c : Course name ds r)
    (calm : Calm (later ++ ds)) {p : Pid} (mem : p ∈ r.pids)
    (closed : (r.child p).outputClosed) : uttered p (log later) = [] :=
  (k.lasts (P := fun q xs => p ∈ q.pids ∧ (q.child p).outputClosed ∧ uttered p xs = []) c calm
    (fun stroke _ h => stroke.spent h) ⟨mem, closed, rfl⟩).2.2

/-! ### The input -/

/-- What takes away the record of a process that is given time stops its session and closes its
input. -/
theorem shut (c : Course name (later ++ d :: earlier) r) (calm : Calm (later ++ d :: earlier))
    {p : Pid} (yields : d.Yields p) : Shut d.turn.room p := by
  have past := c.back.1
  have known := (past.tended fun m hm => calm m (by simp [hm])).known
  have mem := known.recorded p yields.recorded
  obtain ⟨-, kept | shut⟩ := c.deed_preserves (d := d)
    (P := fun t => p ∈ t.room.pids ∧ (t.room.recorded = some p ∨ Shut t.room p)) calm (by simp)
    (fun stroke h => ⟨(stroke.follows h.1).1, stroke.shut yields.patient h.1 h.2⟩)
    ⟨mem, .inl yields.recorded⟩
  · exact absurd kept yields.taken
  · exact shut

/-- A process whose record was taken away is not recorded again. -/
theorem not_recorded (c : Course name (later ++ d :: earlier) r)
    (calm : Calm (later ++ d :: earlier)) {p : Pid} (yields : d.Yields p) :
    r.recorded ≠ some p :=
  c.stays_unrecorded c.upTo calm (c.shut calm yields).1 yields.taken

theorem pieces_log_eq (c : Course name (later ++ d :: earlier) r)
    (calm : Calm (later ++ d :: earlier)) {p : Pid} (yields : d.Yields p) :
    pieces p (log (later ++ d :: earlier)) = pieces p (log earlier) := by
  have silent : ∀ x ∈ log (later ++ [d]), x.piece? p = none := by
    intro x hx
    obtain ⟨m, hm, hx⟩ := List.mem_flatMap.mp hx
    cases x with
    | wrote call pid piece =>
      refine if_neg ?_
      rintro rfl
      have written : (⟨call, pid, piece⟩ : Write) ∈ writes m.turn.trace :=
        List.mem_filterMap.mpr ⟨_, hx, rfl⟩
      have mem : m ∈ later ++ d :: earlier := by
        rcases List.mem_append.mp hm with hm | hm
        · exact List.mem_append_left _ hm
        · simp [List.mem_singleton.mp hm]
      obtain ⟨before, after⟩ := c.targets mem written
      rcases List.mem_append.mp hm with hm | hm
      · obtain ⟨late, early, rfl⟩ := List.append_of_mem hm
        rw [List.append_assoc, List.cons_append] at c calm
        have past : Calm (early ++ d :: earlier) := calm.of_append.tail
        exact c.back.1.not_recorded past yields before.recorded
      · rw [List.mem_singleton.mp hm] at after
        exact yields.taken after.recorded
    | _ => rfl
  have none : pieces p (log (later ++ [d])) = [] := recount_eq_nil silent
  have split : later ++ d :: earlier = (later ++ [d]) ++ earlier := by simp
  rw [split]
  exact (recount_log_append _ _ _).trans ((congrArg₂ _ rfl none).trans (List.append_nil _))

/-- A process that is given time finds on its input what was written to it before, and then the
end. -/
theorem fed_whole (c : Course name (later ++ d :: earlier) r)
    (calm : Calm (later ++ d :: earlier)) {p : Pid} (yields : d.Yields p)
    (input : (r.child p).traits.hasInput) :
    fed p (log (later ++ d :: earlier)) = (pieces p (log earlier)).map some ++ [none] := by
  obtain ⟨mem, -, closed⟩ :=
    c.stays_shut c.upTo calm (c.shut calm yields)
  have whole := (c.tended calm).fed p mem
  rwa [closed input, if_pos rfl, c.pieces_log_eq calm yields] at whole

/-! ### Calls in their grace period -/

/-- A call that asks to be woken comes in just then, and asks for the time that is given. -/
theorem alarm (c : Course name ds r) (calm : Calm ds) (hd : d ∈ ds) {a : CallId × Seconds}
    (ha : a ∈ d.turn.alarms) : a.2 = d.setting.grace.length ∧
      ∀ b ∈ d.room.callers, b.id = a.1 → b.phase = .queued := by
  obtain ⟨length, q, enters⟩ := c.deed_preserves
    (P := fun t => ∀ a ∈ t.alarms, a.2 = d.setting.grace.length ∧ ∃ q, d.Enters a.1 q) calm hd
    (fun stroke h => stroke.alarms h) nofun a ha
  obtain ⟨upper, lower, rfl⟩ := List.append_of_mem hd
  obtain ⟨past, -, -, fits⟩ := c.back
  exact ⟨length, fun b hb same => enters.queued fits past.sound.placed.nodup hb same⟩

/-- What a call in its grace period has behind it: it took away the record of the process, asked to
be woken when the time is over, and has been in its grace period ever since; and if it is not
asleep any more, it was woken meanwhile. -/
theorem granted (c : Course name ds r) (calm : Calm ds) {b : Caller} (hb : b ∈ r.callers) {p : Pid}
    (phase : b.phase = .grace p) :
    ∃ (later : List Deed) (d : Deed) (earlier : List Deed), ds = later ++ d :: earlier ∧
      d.room.recorded = some p ∧
      (b.id, d.setting.grace.length) ∈ d.turn.alarms ∧ (∀ m ∈ later, m.room.Awaits b.id p) ∧
      (b.wake ≠ .asleep → ∃ (late : List Deed) (w : Deed) (early : List Deed),
        later = late ++ w :: early ∧ w.Rouses b.id p) := by
  induction c generalizing b with
  | start => cases hb
  | act c s sane a call birth ih =>
    rename_i ds r
    have whole := c.act s sane a call birth
    have start : ∀ x ∈ r.callers, ∀ pid, x.phase = .grace pid →
        Deed.Grants ⟨r, s, a⟩ [] pid x := fun x hx _ _ => .before hx
    have all := whole.deed_preserves (d := ⟨r, s, a⟩)
      (P := fun t => ∀ x ∈ t.room.callers, ∀ pid, x.phase = .grace pid →
        Deed.Grants ⟨r, s, a⟩ t.alarms pid x) calm List.mem_cons_self
      (fun stroke h => stroke.grants h) start
    cases all b hb p phase with
    | before mem =>
      obtain ⟨later, d, earlier, split, recorded, alarm, waits, woken⟩ := ih calm.tail mem phase
      refine ⟨⟨r, s, a⟩ :: later, d, earlier, by rw [split]; rfl, recorded, alarm, ?_, ?_⟩
      · exact List.forall_mem_cons.mpr ⟨⟨b, mem, rfl, phase⟩, waits⟩
      · intro awake
        obtain ⟨late, w, early, at_, rest⟩ := woken awake
        exact ⟨⟨r, s, a⟩ :: late, w, early, by rw [at_]; rfl, rest⟩
    | woken action x mem id phase asleep =>
      obtain ⟨later, d, earlier, split, recorded, alarm, waits, -⟩ := ih calm.tail mem phase
      rw [id] at alarm waits
      refine ⟨⟨r, s, a⟩ :: later, d, earlier, by rw [split]; rfl, recorded, alarm, ?_, ?_⟩
      · exact List.forall_mem_cons.mpr ⟨⟨x, mem, id, phase⟩, waits⟩
      · intro _
        exact ⟨[], _, later, rfl, action, x, mem, id, phase, asleep⟩
    | now recorded alarm asleep =>
      exact ⟨[], _, ds, rfl, recorded, alarm, List.forall_mem_nil _,
        fun awake => absurd asleep awake⟩

/-- While a call waits for the relay of a process, nothing is recorded. -/
theorem vacant (c : Course name ds r) (calm : Calm ds) {id : CallId} {p : Pid}
    (awaits : r.Awaits id p) : r.recorded = none := by
  obtain ⟨b, hb, -, phase⟩ := awaits
  have stage := (c.tidy calm).stages b hb (.holding p) (by rw [phase]; rfl)
  exact stage.1

/-- The relay of a process that can be read, and that nobody has told to end, ends after the
process. -/
theorem ended_of_done (c : Course name ds r) {p : Pid} (mem : p ∈ r.pids)
    (done : (r.child p).relay.isDone) (heeded : (r.child p).relay.isCancelled = false)
    (output : (r.child p).traits.hasOutput) (readable : ({} : Relay).canReadAll (heard p (log ds))) :
    (r.child p).hasEnded := by
  rcases c.accounted.outlasted p mem (.inr done) with ended | cancelled | none | unreadable
  · exact ended
  · rw [heeded] at cancelled
    cases cancelled
  · rw [output] at none
    cases none
  · rw [readable] at unreadable
    cases unreadable

/-- What is known of a process in a room where its relay still matters, seen from a later room. -/
theorem unfinished (k : Course name (later ++ ds) q) (c : Course name ds r)
    (calm : Calm (later ++ ds)) {p : Pid} (mem : p ∈ r.pids)
    (runs : (r.child p).hasEnded = false) (heeded : (r.child p).relay.isCancelled = false)
    (output : (q.child p).traits.hasOutput)
    (readable : ({} : Relay).canReadAll (heard p (log (later ++ ds)))) :
    (r.child p).relay.isDone = false := by
  by_contra done
  rw [heard, recount_log_append] at readable
  obtain ⟨-, follows⟩ := k.follows c calm mem
  have ended := c.ended_of_done mem (by simpa using done) heeded (follows.traits ▸ output)
    (Relay.canReadAll_of_append readable)
  rw [runs] at ended
  cases ended

/-- A call that kills a process for which it waited was woken while the relay went on, and waits
for it since the record was taken away. -/
theorem slain_late (c : Course name (later ++ d :: earlier) r)
    (calm : Calm (later ++ d :: earlier)) {p : Pid} (yields : d.Yields p) {b : Caller}
    (hb : b ∈ r.callers) (phase : b.phase = .grace p) (awake : b.wake ≠ .asleep)
    (unfinished : (r.child p).relay.isDone = false) :
    ∃ (late : List Deed) (w : Deed) (early : List Deed), later = late ++ w :: early ∧
      w.Rouses b.id p ∧ (b.id, d.setting.grace.length) ∈ d.turn.alarms ∧
      (∀ m ∈ early, m.room.Awaits b.id p) ∧ (w.room.child p).relay.isDone = false := by
  obtain ⟨since, g, before, split, recorded, alarm, waits, woken⟩ := c.granted calm hb phase
  rcases split_cases split with ⟨rfl, rfl, -⟩ | ⟨us, rfl⟩ | ⟨us, rfl⟩
  · obtain ⟨late, w, early, rfl, rouses⟩ := woken awake
    refine ⟨late, w, early, rfl, rouses, alarm, fun m hm => waits m (by simp [hm]), ?_⟩
    obtain ⟨x, hx, -, hphase⟩ := rouses.awaits
    rw [List.append_assoc, List.cons_append] at c calm
    obtain ⟨past, -⟩ := c.back
    have quiet : Calm (early ++ d :: earlier) := calm.of_append.tail
    have mem := (past.tended quiet).wards x hx p (by rw [hphase]; rfl)
    by_contra done
    have settled : Settled p w.room :=
      ⟨mem, fun relays => done ((Room.relays_iff _ _).mp relays).2⟩
    have whole : late ++ w :: (early ++ d :: earlier) =
        (late ++ [w]) ++ (early ++ d :: earlier) := by simp
    have stays := (past.stays_settled (whole ▸ c) settled).1
    exact stays.2 ((Room.relays_iff _ _).mpr ⟨stays.1, unfinished⟩)
  -- The record was taken away while a call waited already.
  · obtain ⟨past, -⟩ := c.back
    have none := past.vacant calm.of_append.tail
      (waits d (by simp))
    rw [yields.recorded] at none
    cases none
  -- The record was taken away a second time.
  · rw [List.append_assoc, List.cons_append] at c calm
    have past := c.back.1
    exact absurd recorded (past.not_recorded
      calm.of_append.tail yields)

/-- A process is killed for a reason, and when it is not recorded any more. -/
theorem slays (c : Course name (later ++ e :: lower) r) (calm : Calm (later ++ e :: lower)) {p : Pid}
    (killed : .killed p ∈ e.turn.trace) :
    e.Slays p ∧ p ∈ e.turn.room.pids ∧ e.turn.room.recorded ≠ some p :=
  c.deed_preserves (d := e) (P := fun t => .killed p ∈ t.trace →
    e.Slays p ∧ p ∈ t.room.pids ∧ t.room.recorded ≠ some p) calm (by simp)
    (fun stroke h told => by
      rcases stroke.killed told with told | ⟨slays, mem, vacant⟩
      · obtain ⟨slays, mem, free⟩ := h told
        exact ⟨slays, (stroke.follows mem).1, stroke.gone mem free⟩
      · exact ⟨slays, mem, vacant ▸ nofun⟩)
    nofun killed

/-- A process that was given time is killed only by a call that has waited for its relay since, and
was woken while the relay went on. -/
theorem slain (c : Course name (later ++ d :: earlier) r) (calm : Calm (later ++ d :: earlier))
    {p : Pid} (yields : d.Yields p) (output : (r.child p).traits.hasOutput)
    (readable : ({} : Relay).canReadAll (heard p (log (later ++ d :: earlier))))
    (split : later ++ d :: earlier = upper ++ e :: lower) (killed : .killed p ∈ e.turn.trace) :
    (e.room.child p).relay.isDone = false ∧
      ∃ (late : List Deed) (w : Deed) (early : List Deed) (id : CallId),
        lower = late ++ w :: early ++ d :: earlier ∧ w.Rouses id p ∧
        (id, d.setting.grace.length) ∈ d.turn.alarms ∧ (∀ m ∈ early, m.room.Awaits id p) ∧
        (w.room.child p).relay.isDone = false := by
  have k := split ▸ c
  have quiet := split ▸ calm
  rw [split] at readable
  obtain ⟨slays, mem, free⟩ := k.slays quiet killed
  have past := k.back.1
  have before : Calm lower := quiet.of_append.tail
  have tended := past.tended before
  have unread (heeded : (e.room.child p).relay.isCancelled = false) (mem : p ∈ e.room.pids)
      (runs : (e.room.child p).hasEnded = false) : (e.room.child p).relay.isDone = false := by
    have whole : upper ++ e :: lower = (upper ++ [e]) ++ lower := by simp
    rw [whole] at k quiet readable
    exact k.unfinished past quiet mem runs heeded output readable
  rcases split_cases split with ⟨rfl, rfl, rfl⟩ | ⟨us, rfl⟩ | ⟨us, rfl⟩
  -- The process would be killed as soon as its record is taken away.
  · obtain ⟨last, -, heeded⟩ := tended.recorded p yields.recorded
    cases slays with
    | atOnce id q enters recorded runs reason =>
      rcases reason with hurries | done
      · exact absurd hurries (yields.patient id q enters)
      · rw [unread heeded (List.mem_of_getLast? last) runs] at done
        cases done
    | late b hb phase wake action runs =>
      have none := past.vacant before ⟨b, hb, rfl, phase⟩
      rw [yields.recorded] at none
      cases none
  -- It would be recorded though it was killed.
  · rw [List.append_assoc, List.append_cancel_left_eq] at split
    obtain rfl : earlier = us ++ e :: lower := (List.cons.inj split).2
    have start : Calm (us ++ e :: lower) := calm.of_append.tail
    exact absurd yields.recorded (c.back.1.stays_unrecorded k.upTo start mem free)
  · rw [List.append_assoc, List.append_cancel_left_eq] at split
    obtain rfl : us ++ d :: earlier = lower := (List.cons.inj split).2
    cases slays with
    | atOnce id q enters recorded runs reason =>
      exact absurd recorded (past.not_recorded before yields)
    | late b hb phase wake action runs =>
      obtain ⟨last, heeded⟩ := tended.waiting b hb p phase
      have unfinished := unread heeded (List.mem_of_getLast? last) runs
      obtain ⟨late, w, early, rfl, rouses, alarm, waits, undone⟩ :=
        past.slain_late before yields hb phase wake unfinished
      exact ⟨unfinished, late, w, early, b.id, rfl, rouses, alarm, waits, undone⟩

/-! ### The output -/

/-- Where a relay has come to the end of the output of a process that is recorded or in its grace
period, all that the process ever writes is on display, and nothing of it is put there later. -/
theorem shown (k : Course name (later ++ ds) r) (c : Course name ds q)
    (calm : Calm (later ++ ds)) {p : Pid} (held : q.recorded = some p ∨ ∃ id, q.Awaits id p)
    (read : (q.child p).relay.isReading = false) (output : (r.child p).traits.hasOutput)
    (readable : ({} : Relay).canReadAll (heard p (log (later ++ ds)))) :
    q.pids.getLast? = some p ∧
      displayed p (log ds) = showing true ((uttered p (log (later ++ ds))).flatMap portions) ∧
      displayed p (log (later ++ ds)) = displayed p (log ds) := by
  have tended := c.tended calm.of_append
  obtain ⟨last, heeded⟩ : q.pids.getLast? = some p ∧ (q.child p).relay.isCancelled = false := by
    rcases held with recorded | ⟨id, b, hb, -, phase⟩
    · obtain ⟨last, -, heeded⟩ := tended.recorded p recorded
      exact ⟨last, heeded⟩
    · exact tended.waiting b hb p phase
  have mem := List.mem_of_getLast? last
  obtain ⟨there, follows⟩ := k.follows c calm mem
  rw [follows.traits] at output
  rw [heard, recount_log_append] at readable
  have readable : ({} : Relay).canReadAll (heard p (log ds)) :=
    Relay.canReadAll_of_append readable
  obtain ⟨isOver, relayed⟩ := (c.aired.airs p).1 mem
  have atEnd : isOver = true := by
    by_contra early
    rcases relayed.early (by simpa using early) with reads | cancelled | broken | mute
    · rw [read] at reads
      cases reads
    · rw [heeded] at cancelled
      cases cancelled
    · rw [readable] at broken
      cases broken
    · rw [output] at mute
      cases mute
  obtain ⟨closed, whole, -⟩ := relayed.whole atEnd
  have utterances : uttered p (log (later ++ ds)) = uttered p (log ds) :=
    (recount_log_append _ _ _).trans
      ((congrArg₂ _ rfl (k.spent c calm mem closed)).trans (List.append_nil _))
  have now := relayed.shown
  rw [atEnd] at now
  refine ⟨last, by rw [now, utterances, whole], ?_⟩
  obtain ⟨isOver', relayed'⟩ := (k.aired.airs p).1 there
  -- What is heard later is no more than what was uttered, and that was all heard.
  have same : heard p (log (later ++ ds)) = heard p (log ds) := by
    have order := relayed'.order
    rw [utterances, ← whole] at order
    have grows : heard p (log ds) <+: heard p (log (later ++ ds)) :=
      ⟨_, (recount_log_append _ _ _).symm⟩
    exact order.eq_of_length (Nat.le_antisymm order.length_le grows.length_le)
  have less : displayed p (log (later ++ ds)) <+: displayed p (log ds) := by
    rw [relayed'.shown, same, now, showing_true]
    cases isOver' with
    | false => exact List.prefix_append _ _
    | true => rw [showing_true]
  have grows : displayed p (log ds) <+: displayed p (log (later ++ ds)) :=
    ⟨_, (recount_log_append _ _ _).symm⟩
  exact less.eq_of_length (Nat.le_antisymm less.length_le grows.length_le)

end Course

/-- A call that is to replace a process whose relay has ended kills it at once. -/
theorem Room.killed_of_restart {r : Room} (s : Setting) (id : CallId) (dir : Machine.Path) {p : Pid}
    (recorded : r.recorded = some p) (mem : p ∈ r.pids)
    (isOpen : (r.knock.latchAt r.latchNumber).isOpen) (runs : (r.child p).hasEnded = false)
    (lingers : (r.child p).traits.onKill = .lingers) (done : (r.child p).relay.isDone) :
    .killed p ∈ (r.act s (.begin id (.restart dir))).trace := by
  have kills (u : Turn) (v : Visit) (ended : (u.child p).hasEnded = false)
      (onKill : (u.child p).traits.onKill = .lingers) : .killed p ∈ (u.kill s v p).trace := by
    simp [Turn.kill, ended, onKill, Turn.parkIn, Turn.park, Turn.say]
  let v : Visit := ⟨id, .restart dir, r.latchNumber⟩
  let t : Turn := ({ room := r.knock, trace := [.approached r.name id] } : Turn).take v
  have enters : r.act s (.begin id (.restart dir)) = t.stop s v true := by
    change Turn.approach { room := r } s id (.restart dir) = _
    unfold Turn.approach
    exact if_pos isOpen
  have own : t.child p = r.child p := Room.child_congr rfl p
  have popped : (t.pop p).child p = { r.child p with isStopped := true } := by
    rw [← own]
    exact (Turn.child_pop t p p).trans (if_pos ⟨rfl, mem⟩)
  obtain ⟨b, closed⟩ : ∃ b, ((t.pop p).closeInput p).child p =
      { (t.pop p).child p with inputClosed := b } :=
    ⟨_, (Turn.child_closeInput _ p p).trans (if_pos ⟨rfl, (t.pids_pop p).symm ▸ mem⟩)⟩
  have here : t.room.recorded = some p := recorded
  rw [enters]
  unfold Turn.stop
  rw [here]
  simp only
  split
  · rw [if_pos (by rw [popped]; exact done)]
    exact kills _ v (by rw [closed, popped]; exact runs) (by rw [closed, popped]; exact lingers)
  · exact kills _ v (by rw [popped]; exact runs) (by rw [popped]; exact lingers)
end ToolHost.Session

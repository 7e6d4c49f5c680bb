import Mathlib
import ToolHost.Proofs.LineDelivery
import ToolHost.Proofs.OutputRelay
import ToolHost.Proofs.Separation
import ToolHost.Proofs.Session.Patience

/-!
# Stopping with grace

A process that is to be replaced, or that has ended by itself, is given time. Its input closes
behind the lines that were written to it before. Unless its output cannot be read it is killed only
when the time is over, counted from the end of its input, and its relay still goes on. And where
its relay has come to the end of the output before that, all that it wrote is on display before a
successor is launched.
-/
namespace ToolHost

open Machine (Bytes)
open Session (displayed fed heard pieces portions showing uttered)

/-- The call that goes on with an action. -/
def Action.subject? (a : Action) : Option CallId := a.session?.bind (·.2.subject?)

/-- A deed takes away the record of a process that is given time: it is to be replaced, or has
ended by itself. -/
structure Deed.GivesTime (d : Deed) (earlier : List Deed) (name : SessionName) (pid : Pid) :
    Prop where
  recorded : (d.house.room name).recorded = some pid
  taken : ((d.house.act d.action).house.room name).recorded ≠ some pid
  length : d.house.plan.grace.length.isPositive
  reason : ((d.house.room name).child pid).hasEnded ∨ ∃ id dir, d.action.subject? = some id ∧
    (id, name, .restart dir) ∈ begun (d :: earlier)

/-- Nobody who waits for a relay that goes on is woken before the time is over that was asked for
when the waiting began. `clock` says what time it is when so many things have been done. -/
def Punctual (clock : Nat → Seconds) (name : SessionName) (ds : List Deed) : Prop :=
  ∀ later w earlier id pid, ds = later ++ w :: earlier → w.action = .room name (.wake id) →
    (w.house.room name).Awaits id pid → ((w.house.room name).child pid).relay.isDone = false →
      ∃ middle d start length, earlier = middle ++ d :: start ∧
        (name, id, length) ∈ (d.house.act d.action).alarms ∧
        (∀ m ∈ middle, (m.house.room name).Awaits id pid) ∧
        ((clock start.length).after length).isDue (clock earlier.length)

theorem House.alarms_act_of_aside (h : House) {a : Action} (ha : a.session? = none) :
    (h.act a).alarms = [] := by
  cases a with
  | room name b => cases ha
  | begin id call =>
    cases call with
    | session name request => cases ha
    | install target artifactName url =>
      change (h.beginInstall id target artifactName url).alarms = []
      unfold beginInstall
      simp only
      split
      · rfl
      · split
        · rfl
        · rfl
        · split <;> rfl
    | _ => rfl
  | received id asked outcome refusal =>
    change (h.receive id asked outcome refusal).alarms = []
    unfold receive
    split <;> rfl
  | shot b => rfl

/-- Who asks to be woken is a call of the room that the action is about. -/
theorem House.mem_alarms_act {h : House} {a : Action} {name : SessionName} {id : CallId}
    {length : Seconds} : (name, id, length) ∈ (h.act a).alarms ↔ ∃ b, a.session? = some (name, b) ∧
      (id, length) ∈ ((h.room name).act h.setting b).alarms := by
  cases ha : a.session? with
  | none => simp [h.alarms_act_of_aside ha]
  | some x =>
    obtain ⟨n, b⟩ := x
    rw [h.act_session ha]
    refine List.mem_map.trans ⟨?_, ?_⟩
    · rintro ⟨y, hy, same⟩
      cases same
      exact ⟨b, rfl, hy⟩
    · rintro ⟨b', same, hb⟩
      cases same
      exact ⟨_, hb, rfl⟩

/-- Only a room is told to wake a call. -/
theorem Action.eq_room_of_wake {a : Action} {name : SessionName} {id : CallId}
    (h : a.session? = some (name, .wake id)) : a = .room name (.wake id) := by
  cases a with
  | room n b =>
    cases h
    rfl
  | begin i c => cases c <;> cases h
  | _ => cases h

/-- Where something was done in the room of a name, it was done in the house. -/
theorem exists_of_deedsAt {name : SessionName} {ds : List Deed} {xs ys : List Session.Deed}
    {x : Session.Deed} (h : deedsAt name ds = xs ++ x :: ys) :
    ∃ late w early, ds = late ++ w :: early ∧ w.at? name = some x ∧ deedsAt name early = ys := by
  obtain ⟨first, rest, rfl, -, hr⟩ := List.filterMap_eq_append_iff.mp h
  obtain ⟨others, w, early, rfl, -, hw, he⟩ := List.filterMap_eq_cons_iff.mp hr
  exact ⟨first ++ others, w, early, by simp, hw, he⟩

namespace Run

variable {ds later earlier upper lower : List Deed} {h : House} {d e : Deed} {name : SessionName}
  {pid : Pid}

/-- What takes away a record is done in the room. -/
theorem session_of_givesTime (run : Run (later ++ d :: earlier) h)
    (gives : d.GivesTime earlier name pid) :
    ∃ b, d.action.session? = some (name, b) ∧
      Session.Deed.Yields ⟨d.house.room name, d.house.setting, b⟩ pid := by
  obtain ⟨past, call, birth⟩ := run.back
  cases bearing name d.house d.action with
  | there n b ha ne =>
    have taken := gives.taken
    rw [past.room_act call birth ha, if_neg ne.symm] at taken
    exact absurd gives.recorded taken
  | aside side =>
    have taken := gives.taken
    rw [side.room] at taken
    exact absurd gives.recorded taken
  | here b ha deeds =>
    have taken := gives.taken
    rw [past.room_act call birth ha, if_pos rfl] at taken
    refine ⟨b, ha, gives.recorded, taken, fun id q enters hurries => ?_⟩
    rcases hurries with ⟨other, runs⟩ | none
    · rcases gives.reason with ended | ⟨i, dir, subject, asked⟩
      · change ((d.house.room name).child pid).hasEnded = false at runs
        rw [ended] at runs
        cases runs
      · have subject : b.subject? = some i := by
          rwa [Action.subject?, ha] at subject
        have next := (past.act d.action call birth).course name
        have known : (id, q) ∈ Session.calls (deedsAt name (d :: earlier)) := by
          rw [deedsAt_cons_self ha]
          rcases enters with begins | ⟨-, c, hc, rfl, rfl, -⟩
          · exact Session.mem_calls_cons.mpr (.inl (by rw [begins]; rfl))
          · exact Session.mem_calls_cons.mpr (.inr ((past.course name).has_call hc))
        have same : id = i := by
          rcases enters with begins | ⟨resumes, -⟩
          · change b = _ at begins
            rw [begins] at subject
            exact Option.some.inj subject
          · change b = _ at resumes
            rw [resumes] at subject
            exact Option.some.inj subject
        cases next.request_unique known (same ▸ mem_calls_deedsAt.mpr asked)
        cases other
    · have length : d.house.plan.grace.length.isPositive = false := none
      rw [gives.length] at length
      cases length

/-- A process that is given time finds on its input what was written to it before and then the
end, at once and for good. -/
theorem fed_whole (run : Run (later ++ d :: earlier) h) (calm : Calm (later ++ d :: earlier))
    (gives : d.GivesTime earlier name pid) (input : ((h.room name).child pid).traits.hasInput) :
    fed pid (Session.log (deedsAt name (d :: earlier))) =
        (pieces pid (Session.log (deedsAt name earlier))).map some ++ [none] ∧
      fed pid (Session.log (deedsAt name (later ++ d :: earlier))) =
        (pieces pid (Session.log (deedsAt name earlier))).map some ++ [none] := by
  obtain ⟨b, ha, yields⟩ := run.session_of_givesTime gives
  have c := run.course name
  have quiet := calm.room name
  rw [deedsAt_split ha] at c quiet ⊢
  rw [deedsAt_cons_self ha]
  have traits := (c.follows c.upTo quiet (c.shut quiet yields).1).2.traits
  have first : Session.Course name ([] ++ _ :: deedsAt name earlier) _ := c.upTo
  exact ⟨first.fed_whole quiet.of_append yields (traits ▸ input), c.fed_whole quiet yields input⟩

/-- A process is killed for a reason, and its record has been taken away before. -/
theorem slays (run : Run (upper ++ e :: lower) h) (calm : Calm (upper ++ e :: lower))
    {b : Session.Action} (ha : e.action.session? = some (name, b))
    (killed : .killed pid ∈ ((e.house.room name).act e.house.setting b).trace) :
    Session.Deed.Slays ⟨e.house.room name, e.house.setting, b⟩ pid ∧ pid ∈ (h.room name).pids ∧
      ((e.house.act e.action).house.room name).recorded ≠ some pid := by
  have c := run.course name
  have quiet := calm.room name
  rw [deedsAt_split ha] at c quiet
  obtain ⟨slays, mem, free⟩ := c.slays quiet killed
  obtain ⟨past, call, birth⟩ := run.back
  refine ⟨slays, (c.follows c.upTo quiet mem).1, ?_⟩
  rw [past.room_act call birth ha, if_pos rfl]
  exact free

/-- Who kills a process of a name does so in the room of that name. -/
theorem session_of_killed (run : Run (upper ++ e :: lower) h) (calm : Calm (upper ++ e :: lower))
    (mem : pid ∈ (h.room name).pids) (killed : .killed pid ∈ e.news) :
    ∃ b, e.action.session? = some (name, b) ∧
      .killed pid ∈ ((e.house.room name).act e.house.setting b).trace := by
  unfold Deed.news at killed
  cases ha : e.action.session? with
  | none =>
    rw [ha] at killed
    cases killed
  | some x =>
    obtain ⟨n, b⟩ := x
    rw [ha] at killed
    have there := (run.slays calm ha killed).2.1
    by_cases same : n = name
    · exact same ▸ ⟨b, rfl, killed⟩
    · exact absurd mem (run.pids_apart same there)

/-- A call that asks to be woken asks for the time that is given, and does not wait yet. -/
theorem alarm (run : Run ds h) (calm : Calm ds) (hd : d ∈ ds) {id : CallId} {length : Seconds}
    (asked : (name, id, length) ∈ (d.house.act d.action).alarms) :
    length = d.house.plan.grace.length ∧ ∀ pid, ¬ (d.house.room name).Awaits id pid := by
  obtain ⟨b, ha, asked⟩ := House.mem_alarms_act.mp asked
  obtain ⟨given, queued⟩ := (run.course name).alarm (calm.room name)
    (mem_deedsAt.mpr ⟨d, hd, b, ha, rfl⟩) asked
  refine ⟨given, fun pid ⟨c, hc, same, phase⟩ => ?_⟩
  rw [queued c hc same] at phase
  cases phase

/-- A call that is woken while the relay goes on has waited long enough. -/
theorem due (run : Run ds h) (calm : Calm ds) {clock : Nat → Seconds}
    (punctual : Punctual clock name ds) {w : Deed} {early : List Deed}
    (split : ds = later ++ w :: (early ++ d :: earlier)) {id : CallId}
    (wakes : w.action = .room name (.wake id)) (awaits : (w.house.room name).Awaits id pid)
    (undone : ((w.house.room name).child pid).relay.isDone = false)
    (asked : (name, id, d.house.plan.grace.length) ∈ (d.house.act d.action).alarms)
    (waits : ∀ m ∈ deedsAt name early, m.room.Awaits id pid) :
    ((clock earlier.length).after d.house.plan.grace.length).isDue
      (clock (early ++ d :: earlier).length) := by
  obtain ⟨middle, g, start, length, place, asked', waits', due⟩ :=
    punctual _ w _ id pid split wakes awaits undone
  have mem (m : Deed) (hm : m ∈ early ++ d :: earlier) : m ∈ ds :=
    split ▸ List.mem_append_right _ (List.mem_cons_of_mem _ hm)
  rcases Session.split_cases place with ⟨rfl, rfl, rfl⟩ | ⟨us, rfl⟩ | ⟨us, rfl⟩
  · rwa [(run.alarm calm (mem d (by simp)) asked').1] at due
  -- A call that asks to be woken does not wait yet, so it asks once.
  · exact absurd (waits' d (by simp)) ((run.alarm calm (mem d (by simp)) asked).2 pid)
  · obtain ⟨b, ha, -⟩ := House.mem_alarms_act.mp asked'
    exact absurd (waits _ (mem_deedsAt.mpr ⟨g, by simp, b, ha, rfl⟩))
      ((run.alarm calm (mem g (by simp)) asked').2 pid)

/-- The call that killed a process was woken because the time was over. -/
theorem expired (run : Run (later ++ d :: earlier) h) (calm : Calm (later ++ d :: earlier))
    {clock : Nat → Seconds} (punctual : Punctual clock name (later ++ d :: earlier))
    (gives : d.GivesTime earlier name pid)
    (output : ((h.room name).child pid).traits.hasOutput)
    (readable : ({} : Session.Relay).canReadAll
      (heard pid (Session.log (deedsAt name (later ++ d :: earlier)))))
    (split : later ++ d :: earlier = upper ++ e :: lower) (killed : .killed pid ∈ e.news) :
    ((e.house.room name).child pid).relay.isDone = false ∧
      ∃ late w early, lower = late ++ w :: early ++ d :: earlier ∧
        ((w.house.room name).child pid).relay.isDone = false ∧
        ((clock earlier.length).after d.house.plan.grace.length).isDue
          (clock (early ++ d :: earlier).length) := by
  obtain ⟨b, ha, yields⟩ := run.session_of_givesTime gives
  have c := run.course name
  have quiet := calm.room name
  rw [deedsAt_split ha] at c quiet readable
  have mem : pid ∈ (h.room name).pids := (c.follows c.upTo quiet (c.shut quiet yields).1).1
  obtain ⟨b', ha', slain⟩ := (split ▸ run).session_of_killed (split ▸ calm) mem killed
  have split' := congrArg (deedsAt name) split
  rw [deedsAt_split ha, deedsAt_split ha'] at split'
  obtain ⟨undone, late', w', early', id, lower', rouses, alarm, waits, undone'⟩ :=
    c.slain quiet yields output readable split' slain
  refine ⟨undone, ?_⟩
  obtain ⟨us, rfl⟩ : ∃ us, lower = us ++ d :: earlier := by
    have long := congrArg List.length lower'
    simp only [List.length_append, List.length_cons] at long
    rcases Session.split_cases split with ⟨-, -, rfl⟩ | ⟨us, rfl⟩ | ⟨us, rfl⟩
    · omega
    · rw [List.append_assoc, List.append_cancel_left_eq] at split
      obtain rfl : earlier = us ++ e :: lower := (List.cons.inj split).2
      rw [deedsAt_split ha'] at long
      simp only [List.length_append, List.length_cons] at long
      omega
    · rw [List.append_assoc, List.append_cancel_left_eq] at split
      exact ⟨us, (List.cons.inj split).2.symm⟩
  rw [deedsAt_split ha] at lower'
  obtain ⟨since, -⟩ := List.append_inj' lower' rfl
  obtain ⟨late, w, early, rfl, hw, rfl⟩ := exists_of_deedsAt since
  refine ⟨late, w, early, rfl, ?_⟩
  obtain ⟨b'', ha'', rfl⟩ := Deed.at?_eq_some.mp hw
  refine ⟨undone', ?_⟩
  have place : later ++ d :: earlier = (upper ++ e :: late) ++ w :: (early ++ d :: earlier) := by
    simpa using split
  have wakes : w.action = .room name (.wake id) := Action.eq_room_of_wake (rouses.action ▸ ha'')
  exact run.due calm punctual place wakes rouses.awaits undone'
    (House.mem_alarms_act.mpr ⟨b, ha, alarm⟩) waits

end Run

/-- In every house that a run leads to in which nobody gives up and nobody is woken too early: a
process that is given time finds on its input what was written to it before and then the end, and
is killed only when the time is over while its relay still goes on; and where its relay comes to
the end of the output while it is recorded or waited for, all that it ever writes is on display
just then, before any other process of the name is launched. This is said of processes whose output
can be read. -/
theorem stopped_with_grace {ds : List Deed} {h : House} (run : Run ds h) (calm : Calm ds)
    {clock : Nat → Seconds} {name : SessionName} (punctual : Punctual clock name ds) {pid : Pid}
    (input : ((h.room name).child pid).traits.hasInput)
    (output : ((h.room name).child pid).traits.hasOutput)
    (readable : ({} : Session.Relay).canReadAll (heard pid (Session.log (deedsAt name ds)))) :
    (∀ later d earlier, ds = later ++ d :: earlier → d.GivesTime earlier name pid →
      fed pid (Session.log (deedsAt name (d :: earlier))) =
        (pieces pid (Session.log (deedsAt name earlier))).map some ++ [none] ∧
      fed pid (Session.log (deedsAt name ds)) =
        fed pid (Session.log (deedsAt name (d :: earlier))) ∧
      ∀ upper e lower, ds = upper ++ e :: lower → .killed pid ∈ e.news →
        ((e.house.room name).child pid).relay.isDone = false ∧
          ∃ late w early, lower = late ++ w :: early ++ d :: earlier ∧
            ((w.house.room name).child pid).relay.isDone = false ∧
            ((clock earlier.length).after d.house.plan.grace.length).isDue
              (clock (early ++ d :: earlier).length)) ∧
    ∀ upper e lower, ds = upper ++ e :: lower →
      ((e.house.room name).recorded = some pid ∨ ∃ id, (e.house.room name).Awaits id pid) →
        ((e.house.room name).child pid).relay.isReading = false →
          (e.house.room name).pids.getLast? = some pid ∧
          displayed pid (Session.log (deedsAt name lower)) =
            showing true ((uttered pid (Session.log (deedsAt name ds))).flatMap portions) ∧
          displayed pid (Session.log (deedsAt name ds)) =
            displayed pid (Session.log (deedsAt name lower)) := by
  refine ⟨?_, ?_⟩
  · rintro later d earlier rfl gives
    obtain ⟨now, later⟩ := run.fed_whole calm gives input
    exact ⟨now, later.trans now.symm, fun upper e lower split killed =>
      run.expired calm punctual gives output readable split killed⟩
  · rintro upper e lower rfl held read
    have k := run.course name
    have quiet := calm.room name
    have split : upper ++ e :: lower = (upper ++ [e]) ++ lower := by simp
    rw [split, deedsAt_append] at k quiet readable ⊢
    exact k.shown (run.back.1.course name) quiet held read output readable

/-! ### Nobody is woken too early -/

theorem Punctual.nil (clock : Nat → Seconds) (name : SessionName) : Punctual clock name [] :=
  fun later _ _ _ _ split => by simp at split

theorem Punctual.cons {clock : Nat → Seconds} {name : SessionName} {ds : List Deed}
    (h : Punctual clock name ds) {d : Deed} (head : ∀ id pid, d.action = .room name (.wake id) →
      (d.house.room name).Awaits id pid → ((d.house.room name).child pid).relay.isDone = false →
        ∃ middle g start length, ds = middle ++ g :: start ∧
          (name, id, length) ∈ (g.house.act g.action).alarms ∧
          (∀ m ∈ middle, (m.house.room name).Awaits id pid) ∧
          ((clock start.length).after length).isDue (clock ds.length)) :
    Punctual clock name (d :: ds) := by
  intro later w earlier id pid split wakes awaits undone
  cases later with
  | nil =>
    cases split
    exact head id pid wakes awaits undone
  | cons e later => exact h later w earlier id pid (List.cons.inj split).2 wakes awaits undone

/-- Where nobody is woken, nobody is woken too early. -/
theorem Punctual.play {clock : Nat → Seconds} {name : SessionName} {ds : List Deed} {h : House}
    (punctual : Punctual clock name ds) {as : List Action}
    (none : ∀ a ∈ as, ∀ id, a ≠ .room name (.wake id)) : Punctual clock name (play ds h as).1 := by
  induction as generalizing ds h with
  | nil => exact punctual
  | cons a as ih =>
    refine ih (punctual.cons fun id pid wakes => ?_) fun b hb => none b (List.mem_cons_of_mem _ hb)
    exact absurd wakes (none a List.mem_cons_self id)

/-- A line is written to a session that is then restarted; the process ends its output, but not
itself. -/
def dawdling : List Action :=
  [.begin 1 (.session (.text "x") (.start ⟨.here, []⟩)),
    .room (.text "x") (.launched 1 (.ok ⟨7, {}⟩)), .begin 2 (.session (.text "x") (.send "a")),
    .begin 3 (.session (.text "x") (.restart ⟨.here, []⟩)), .room (.text "x") (.output 7 [98]),
    .room (.text "x") (.closeOutput 7), .room (.text "x") (.relay 7)]

/-- The call that restarts the session is woken, and kills the process. -/
def overrun : List Action :=
  dawdling ++ [.room (.text "x") (.wake 3), .room (.text "x") (.resume 3)]

/-- The second that is given is over when seven things have been done. -/
def overrunClock (n : Nat) : Seconds := if n < 7 then .zero else Config.defaultRestartGrace

theorem split_at {α : Type} {xs : List α} {n : Nat} (h : n < xs.length) :
    xs = xs.take n ++ xs.get ⟨n, h⟩ :: xs.drop (n + 1) :=
  (List.take_append_drop n xs).symm.trans (congrArg _ (List.drop_eq_getElem_cons h))

theorem punctual_overrun :
    Punctual overrunClock (.text "x") (play [] furnished overrun).1 := by
  rw [overrun, play_append]
  refine Punctual.cons (Punctual.cons (Punctual.play (.nil _ _) ?_) ?_) ?_
  · simp [dawdling]
  · rintro id pid wakes ⟨c, hc, -, phase⟩ -
    cases wakes
    have seven : ∀ c ∈ ((play [] furnished dawdling).2.room (.text "x")).callers,
        c.phase = .grace 7 := by decide +kernel
    cases (seven c hc).symm.trans phase
    refine ⟨_, _, _, Config.defaultRestartGrace, split_at (by decide +kernel) (n := 3), ?_⟩
    decide +kernel
  · exact fun id pid wakes => nomatch wakes

/-- The process finds its line and the end of its input; what it wrote is on display before it is
killed, which is when the second is over. -/
theorem stopped_with_grace_overrun :
    let ds := (play [] furnished overrun).1
    fed 7 (Session.log (deedsAt (.text "x") ds)) = [some [97, 10], none] ∧
      displayed 7 (Session.log (deedsAt (.text "x") (ds.drop 2))) = showing true [[98]] ∧
      ∃ late w early, ds.drop 1 = late ++ w :: early ++ ds.drop 5 ∧
        ((w.house.room (.text "x")).child 7).relay.isDone = false ∧
        ((overrunClock 3).after Config.defaultRestartGrace).isDue
          (overrunClock (early ++ ds.drop 5).length) := by
  intro ds
  have run := Run.furnished.play overrun (by decide +kernel)
  obtain ⟨stop, shown⟩ := @stopped_with_grace _ _ run (by decide +kernel) _ _ punctual_overrun 7
    (by decide +kernel) (by decide +kernel) (by decide +kernel)
  have gives : (ds.get ⟨5, by decide +kernel⟩).GivesTime (ds.drop 6) (.text "x") 7 :=
    ⟨by decide +kernel, by decide +kernel, by decide +kernel,
      .inr ⟨3, ⟨.here, []⟩, by decide +kernel, by decide +kernel⟩⟩
  obtain ⟨now, later, killed⟩ := stop _ _ _ (split_at (by decide +kernel)) gives
  obtain ⟨-, late, w, early, split, undone, due⟩ :=
    killed _ _ _ (split_at (n := 0) (by decide +kernel)) (by decide +kernel)
  obtain ⟨-, display, -⟩ := shown _ _ _ (split_at (n := 1) (by decide +kernel))
    (.inr ⟨3, by decide +kernel⟩) (by decide +kernel)
  refine ⟨?_, ?_, late, w, early, split, undone, due⟩
  · rw [later, now]
    decide +kernel
  · rw [display]
    decide +kernel

/-- A line is written to a process, and the process writes what cannot be read. -/
def blotted : List Action :=
  [.begin 1 (.session (.text "x") (.start ⟨.here, []⟩)),
    .room (.text "x") (.launched 1 (.ok ⟨7, { onKill := .lingers }⟩)),
    .begin 2 (.session (.text "x") (.send "a")),
    .room (.text "x") (.output 7 (numerousOctets 4301))]

/-- The relay of the process goes on, and the session is restarted. -/
def blottedRelay : Deed := ⟨(play [] furnished blotted).2, .room (.text "x") (.relay 7)⟩

def blottedRestart : Deed :=
  ⟨(blottedRelay.house.act blottedRelay.action).house,
    .begin 3 (.session (.text "x") (.restart ⟨.here, []⟩))⟩

theorem run_blotted : Run (play [] furnished blotted).1 blottedRelay.house :=
  Run.furnished.play blotted (by decide +kernel)

/-- The room of the session when its relay goes on. -/
def blottedTurn : Session.Turn := { room := blottedRelay.house.room (.text "x") }

theorem room_blottedRestart :
    blottedRestart.house.room (.text "x") = (blottedTurn.relay 7).room :=
  (run_blotted.room_act (a := blottedRelay.action) nofun nofun rfl _).trans (if_pos rfl)

/-- The relay ends over what it cannot read, while the process goes on. -/
theorem child_blottedRestart : ∃ relay : Session.Relay, relay.isDone ∧
    (blottedRestart.house.room (.text "x")).child 7 =
      { pid := 7, traits := { onKill := .lingers }, relay } := by
  have child : blottedTurn.child 7 =
      { pid := 7, traits := { onKill := .lingers }, output := [numerousOctets 4301] } := by rfl
  have octets : ([numerousOctets 4301].flatMap portions).flatten = numerousOctets 4301 := by
    simp [Session.flatten_portions]
  have there : 7 ∈ blottedTurn.room.pids := by decide +kernel
  obtain ⟨relay, done, after⟩ := Session.Turn.child_relay_of_unreadable there
    (by rw [child]; exact .inl rfl) (by rw [child]) (by rw [child])
    (by rw [child]; exact not_canReadAll_numerousOctets (by decide) octets)
  change (blottedTurn.relay 7).room.child 7 = _ at after
  rw [← room_blottedRestart, child] at after
  exact ⟨relay, done, after⟩

/-- The call that restarts the session finds the latch open, and kills the process at once. -/
theorem killed_blottedRestart : .killed 7 ∈ ((blottedRestart.house.room (.text "x")).act
    blottedRestart.house.setting (.begin 3 (.restart ⟨.here, []⟩))).trace := by
  obtain ⟨relay, done, child⟩ := child_blottedRestart
  have side := Session.Side.relay blottedTurn 7
  have there : 7 ∈ blottedTurn.room.pids := by decide +kernel
  have gate : (blottedTurn.room.knock.latchAt blottedTurn.room.latchNumber).isOpen := by
    decide +kernel
  refine Session.Room.killed_of_restart _ _ _ ?_ ?_ ?_ ?_ ?_ ?_
  · rw [room_blottedRestart, side.recorded]
    decide +kernel
  · exact room_blottedRestart ▸ side.pids ▸ there
  · unfold Session.Room.knock Session.Room.latchAt Session.Room.latchNumber at gate ⊢
    rwa [room_blottedRestart, side.latches, side.latch]
  · rw [child]
    rfl
  · rw [child]
  · rw [child]
    exact done

/-- Where the output cannot be read the relay ends before the process, and the process is killed as
soon as its record is taken away, with a line that it was given no time to read. -/
theorem not_stopped_with_grace_blotted :
    let earlier := blottedRelay :: (play [] furnished blotted).1
    Run (blottedRestart :: earlier) (blottedRestart.house.act blottedRestart.action).house ∧
      Calm (blottedRestart :: earlier) ∧ blottedRestart.GivesTime earlier (.text "x") 7 ∧
      .wrote 2 7 [97, 10] ∈ blottedRestart.house.trace ∧
      ((blottedRestart.house.room (.text "x")).child 7).relay.isDone ∧
      .killed 7 ∈ blottedRestart.news := by
  intro earlier
  have run : Run ([] ++ blottedRestart :: earlier)
      (blottedRestart.house.act blottedRestart.action).house := by
    have run := Run.furnished.play (blotted ++ [blottedRelay.action, blottedRestart.action])
      (by decide +kernel)
    rwa [play_append] at run
  have calm : Calm (blottedRestart :: earlier) := by decide +kernel
  obtain ⟨slays, -, taken⟩ := run.slays calm rfl killed_blottedRestart
  cases slays with
  | late b hb phase wake action => cases action
  | atOnce id q enters recorded runs reason =>
    have wrote : .wrote 2 7 [97, 10] ∈ blottedRelay.house.trace := by decide +kernel
    have told : blottedRestart.house.trace = _ ++ blottedRelay.house.trace :=
      Run.trace_act (a := blottedRelay.action) rfl
    obtain ⟨relay, done, child⟩ := child_blottedRestart
    refine ⟨run, calm, ⟨recorded, taken, by decide +kernel, ?_⟩, ?_, ?_, ?_⟩
    · exact .inr ⟨3, ⟨.here, []⟩, rfl, by decide +kernel⟩
    · exact told ▸ List.mem_append_right _ wrote
    · rw [child]
      exact done
    · rw [Deed.news_eq rfl]
      exact killed_blottedRestart

end ToolHost

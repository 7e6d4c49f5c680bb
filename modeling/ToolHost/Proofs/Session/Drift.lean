import Mathlib
import ToolHost.Proofs.Session.Quiet

/-!
# What happens on the side

Most of what is done in a step leaves the latch, the record and the places of the calls as they
are: processes write, end and are read from, sleepers are woken, jobs become ready, things are
displayed. All that is one relation between two turns, and every function that does no more than
this is shown to respect it. What of it is written, read and shown is kept track of beside it.
-/
namespace ToolHost

/-- Whether a happening has nothing to do with a latch or with the input of a process. -/
def Happening.isAside : Happening → Bool
  | .approached .. | .entered .. | .left .. | .wrote .. => false
  | _ => true

namespace Session

/-- A process at a later time: what is fixed stays, and it ends at most once, and so does its
relay. -/
structure Child.Ages (c d : Child) : Prop where
  pid : d.pid = c.pid
  dir : d.dir = c.dir
  traits : d.traits = c.traits
  isStopped : d.isStopped = c.isStopped
  code : c.code ≠ none → d.code = c.code
  isDone : c.relay.isDone → d.relay.isDone

theorem Child.Ages.refl (c : Child) : c.Ages c := ⟨rfl, rfl, rfl, rfl, fun _ => rfl, id⟩

theorem Child.Ages.trans {a b c : Child} (h : a.Ages b) (k : b.Ages c) : a.Ages c where
  pid := k.pid.trans h.pid
  dir := k.dir.trans h.dir
  traits := k.traits.trans h.traits
  isStopped := k.isStopped.trans h.isStopped
  code ha := (k.code (by rw [h.code ha]; exact ha)).trans (h.code ha)
  isDone := k.isDone ∘ h.isDone

/-- A process that only differs in what it has said, what it hears and its relay. -/
theorem Child.Ages.of_eq {c d : Child} (pid : d.pid = c.pid) (dir : d.dir = c.dir)
    (traits : d.traits = c.traits) (stopped : d.isStopped = c.isStopped) (code : d.code = c.code)
    (done : c.relay.isDone → d.relay.isDone) : c.Ages d :=
  ⟨pid, dir, traits, stopped, fun _ => code, done⟩

namespace Room

/-- A process of the given number was created and has not ended. -/
def Runs (r : Room) (pid : Pid) : Prop := ∃ c, r.child? pid = some c ∧ c.code = none

theorem Runs.mem {r : Room} {pid : Pid} (h : r.Runs pid) : pid ∈ r.pids := by
  obtain ⟨c, hc, _⟩ := h
  exact (r.child?_isSome pid).mp (by simp [hc])

/-- The relay of a process of the given number has not ended. -/
def Relays (r : Room) (pid : Pid) : Prop := ∃ c, r.child? pid = some c ∧ c.relay.isDone = false

theorem relays_iff (r : Room) (pid : Pid) :
    r.Relays pid ↔ pid ∈ r.pids ∧ (r.child pid).relay.isDone = false := by
  constructor
  · rintro ⟨c, hc, hn⟩
    exact ⟨(r.child?_isSome pid).mp (by simp [hc]), by rw [child_of_child? hc]; exact hn⟩
  · rintro ⟨hm, hn⟩
    obtain ⟨c, hc⟩ := Option.isSome_iff_exists.mp ((r.child?_isSome pid).mpr hm)
    exact ⟨c, hc, by rwa [child_of_child? hc] at hn⟩

theorem runs_iff (r : Room) (pid : Pid) :
    r.Runs pid ↔ pid ∈ r.pids ∧ (r.child pid).code = none := by
  constructor
  · intro h
    obtain ⟨c, hc, hn⟩ := h
    exact ⟨Runs.mem ⟨c, hc, hn⟩, by rw [child_of_child? hc]; exact hn⟩
  · rintro ⟨hm, hn⟩
    obtain ⟨c, hc⟩ := Option.isSome_iff_exists.mp ((r.child?_isSome pid).mpr hm)
    exact ⟨c, hc, by rwa [child_of_child? hc] at hn⟩

end Room

/-- Whether a call in some phase may be woken by what happens on the side. -/
def Room.MayWake (r : Room) : Phase → Prop
  | .grace _ => True
  | .reaping pid => ¬ r.Runs pid
  | .joining pid => ¬ r.Relays pid
  | _ => False

/-- A call is as it was, or it slept and was woken. -/
def Caller.Stirs (r : Room) (c d : Caller) : Prop :=
  d = c ∨ c.wake = .asleep ∧ d = { c with wake := .woken } ∧ r.MayWake c.phase

/-- What happens on the side. -/
structure Side (t u : Turn) : Prop where
  name : u.room.name = t.room.name
  latches : u.room.latches = t.room.latches
  latch : u.room.latch = t.room.latch
  users : u.room.users = t.room.users
  recorded : u.room.recorded = t.room.recorded
  pids : u.room.pids = t.room.pids
  ages : ∀ pid, (t.room.child pid).Ages (u.room.child pid)
  stirs : List.Forall₂ (Caller.Stirs u.room) t.room.callers u.room.callers
  trace : ∃ xs, u.trace = xs ++ t.trace ∧ ∀ x ∈ xs, x.isAside
  returned : u.returned = t.returned

namespace Side

variable {t u w : Turn}

theorem runs (h : Side t u) {pid : Pid} (hr : u.room.Runs pid) : t.room.Runs pid := by
  rw [Room.runs_iff] at *
  refine ⟨h.pids ▸ hr.1, ?_⟩
  by_contra hne
  exact hne ((h.ages pid).code hne ▸ hr.2)

theorem relays (h : Side t u) {pid : Pid} (hr : u.room.Relays pid) : t.room.Relays pid := by
  rw [Room.relays_iff] at *
  refine ⟨h.pids ▸ hr.1, ?_⟩
  by_contra hne
  rw [(h.ages pid).isDone (eq_true_of_ne_false hne)] at hr
  cases hr.2

theorem mayWake (h : Side t u) {p : Phase} (hm : t.room.MayWake p) : u.room.MayWake p := by
  cases p with
  | reaping pid => exact fun hr => hm (h.runs hr)
  | joining pid => exact fun hr => hm (h.relays hr)
  | _ => exact hm

theorem refl (t : Turn) : Side t t where
  name := rfl
  latches := rfl
  latch := rfl
  users := rfl
  recorded := rfl
  pids := rfl
  ages _ := .refl _
  stirs := List.forall₂_same.mpr fun _ _ => .inl rfl
  trace := ⟨[], rfl, by simp⟩
  returned := rfl

theorem trans (h : Side t u) (k : Side u w) : Side t w where
  name := k.name.trans h.name
  latches := k.latches.trans h.latches
  latch := k.latch.trans h.latch
  users := k.users.trans h.users
  recorded := k.recorded.trans h.recorded
  pids := k.pids.trans h.pids
  ages pid := (h.ages pid).trans (k.ages pid)
  stirs := by
    have both : List.Forall₂ (Caller.Stirs w.room) t.room.callers w.room.callers := by
      refine List.forall₂_iff_get.mpr ⟨h.stirs.length_eq.trans k.stirs.length_eq, ?_⟩
      intro i h₁ h₂
      have h₃ : i < u.room.callers.length := h.stirs.length_eq ▸ h₁
      rcases h.stirs.get h₁ h₃ with e | ⟨ha, e, hm⟩
      · rcases k.stirs.get h₃ h₂ with e' | ⟨ha', e', hm'⟩
        · exact .inl (e'.trans e)
        · exact .inr ⟨e ▸ ha', by rw [e', e], e ▸ hm'⟩
      · rcases k.stirs.get h₃ h₂ with e' | ⟨ha', _⟩
        · exact .inr ⟨ha, e'.trans e, k.mayWake hm⟩
        · rw [e] at ha'
          cases ha'
    exact both
  trace := by
    obtain ⟨xs, hx, ax⟩ := h.trace
    obtain ⟨ys, hy, ay⟩ := k.trace
    refine ⟨ys ++ xs, by rw [hy, hx, List.append_assoc], ?_⟩
    intro x hm
    rcases List.mem_append.mp hm with hm | hm
    · exact ay x hm
    · exact ax x hm
  returned := k.returned.trans h.returned

/-- No call changes its place. -/
theorem places (h : Side t u) : u.room.places = t.room.places := by
  unfold Room.places
  generalize t.room.callers = cs, u.room.callers = ds, h.stirs = hs
  induction hs with
  | nil => rfl
  | cons hc _ ih =>
    rw [List.map_cons, List.map_cons, ih]
    congr 1
    rcases hc with rfl | ⟨_, rfl, _⟩ <;> rfl

theorem exists_mem (h : Side t u) {d : Caller} (hd : d ∈ u.room.callers) :
    ∃ c ∈ t.room.callers, c.Stirs u.room d := by
  obtain ⟨i, hi, rfl⟩ := List.getElem_of_mem hd
  have hi' : i < t.room.callers.length := h.stirs.length_eq ▸ hi
  exact ⟨_, List.getElem_mem hi', h.stirs.get hi' hi⟩

theorem room_eq (name : u.room = t.room)
    (trace : ∃ xs, u.trace = xs ++ t.trace ∧ ∀ x ∈ xs, x.isAside)
    (returned : u.returned = t.returned) : Side t u where
  name := by rw [name]
  latches := by rw [name]
  latch := by rw [name]
  users := by rw [name]
  recorded := by rw [name]
  pids := by rw [name]
  ages _ := by rw [name]; exact .refl _
  stirs := by rw [name]; exact (refl t).stirs
  trace := trace
  returned := returned

theorem say (t : Turn) {x : Happening} (h : x.isAside) : Side t (t.say x) :=
  room_eq rfl ⟨[x], rfl, by simpa using h⟩ rfl

theorem ready (t : Turn) (j : Job) : Side t (t.ready j) := room_eq rfl ⟨[], rfl, by simp⟩ rfl

theorem alarms (t : Turn) (as : List (CallId × Seconds)) : Side t { t with alarms := as } :=
  room_eq rfl ⟨[], rfl, by simp⟩ rfl

theorem jobs (t : Turn) (js : List Job) : Side t { t with jobs := js } :=
  room_eq rfl ⟨[], rfl, by simp⟩ rfl

theorem display (t : Turn) (d : Option (List Terminal.StyledText)) :
    Side t { t with room := { t.room with display := d } } :=
  { refl t with }

theorem setChild (t : Turn) (pid : Pid) {c : Child} (h : (t.child pid).Ages c) :
    Side t (t.setChild c) :=
  { refl t with
    pids := t.room.pids_setChild c
    ages := by
      have hc : c.pid = pid := h.pid.trans (t.room.child_pid pid)
      intro p
      change Child.Ages _ ((t.room.setChild c).child p)
      rw [Room.child_setChild]
      split
      · rename_i hp
        rw [hp.1, hc]
        exact h
      · exact .refl _
    stirs := List.forall₂_same.mpr fun _ _ => .inl rfl }

theorem wakeCallers (t : Turn) {p : Phase → Bool}
    (h : ∀ c ∈ t.room.callers, p c.phase → t.room.MayWake c.phase) : Side t (t.wakeCallers p) :=
  { refl t with
    stirs := by
      change List.Forall₂ (Caller.Stirs _) t.room.callers (t.room.callers.map _)
      rw [List.forall₂_map_right_iff]
      refine List.forall₂_same.mpr ?_
      intro c hc
      split
      · rename_i hw
        simp only [Bool.and_eq_true, decide_eq_true_eq] at hw
        exact .inr ⟨hw.1, rfl, h c hc hw.2⟩
      · exact .inl rfl }

theorem ite {c : Prop} [Decidable c] {a b : Turn} (ha : Side t a) (hb : Side t b) :
    Side t (if c then a else b) := by
  split
  · exact ha
  · exact hb

theorem rouse (t : Turn) (pid : Pid) {c : Child} (h : (t.child pid).Ages c) :
    Side t (t.rouse c) := by
  have hr : c.Ages c.rouse.1 := by
    have done : c.relay.isDone → c.rouse.1.relay.isDone := fun h => c.keeps_rouse.isDone ▸ h
    revert done
    unfold Child.rouse
    split <;> (try split) <;> exact .of_eq rfl rfl rfl rfl rfl
  have hs : Side t (t.setChild c.rouse.1) := setChild t pid (h.trans hr)
  unfold Turn.rouse
  simp only
  split
  · exact hs.trans (ready _ _)
  · exact hs

/-- A process that ends does not run any more. -/
theorem not_runs_endChild (t : Turn) (c : Child) (code : Int) :
    ¬ (t.endChild c code).room.Runs c.pid := by
  have hc : (c.finish code).rouse.1.code = some code ∧ (c.finish code).rouse.1.pid = c.pid := by
    unfold Child.rouse
    split <;> (try split) <;> exact ⟨rfl, rfl⟩
  have hroom : (t.rouse (c.finish code)).room = t.room.setChild (c.finish code).rouse.1 := by
    unfold Turn.rouse
    simp only
    split <;> rfl
  rintro ⟨d, hd, hn⟩
  change (t.rouse (c.finish code)).room.child? c.pid = some d at hd
  rw [hroom, ← hc.2, Room.child?_setChild_self] at hd
  obtain ⟨_, _, rfl⟩ := Option.map_eq_some_iff.mp hd
  rw [hc.1] at hn
  cases hn

theorem endChild (t : Turn) (pid : Pid) {c : Child} (h : (t.child pid).Ages c)
    (hn : c.code = none) (code : Int) : Side t (t.endChild c code) := by
  have hf : c.Ages (c.finish code) := ⟨rfl, rfl, rfl, rfl, fun hc => absurd hn hc, id⟩
  refine (rouse t pid (h.trans hf)).trans (wakeCallers _ ?_)
  intro d _ hd
  have hp : d.phase = .reaping c.pid := by simpa using hd
  rw [hp]
  exact not_runs_endChild t c code

theorem closeInput (t : Turn) (pid : Pid) : Side t (t.closeInput pid) := by
  unfold Turn.closeInput
  simp only
  split
  · refine .trans (.trans (setChild t pid ?_) (say _ rfl)) (ready _ _)
    exact .of_eq rfl rfl rfl rfl rfl id
  · exact refl t

/-! The relay. -/

theorem cancelRelay (t : Turn) (pid : Pid) : Side t (t.setChild (t.child pid).cancelRelay.1) := by
  apply setChild t pid
  have done : (t.child pid).relay.isDone → (t.child pid).cancelRelay.1.relay.isDone :=
    fun h => (t.child pid).keeps_cancelRelay.isDone ▸ h
  revert done
  unfold Child.cancelRelay
  split <;> exact .of_eq rfl rfl rfl rfl rfl

theorem append (t : Turn) (pid : Pid) (text : Terminal.StyledText) :
    Side t (t.append pid text) := by
  unfold Turn.append
  split
  · exact refl t
  · exact (display t _).trans (say _ rfl)

theorem relayPortion (t : Turn) (pid : Pid) (portion : Machine.Bytes) :
    Side t (t.relayPortion pid portion) := by
  have hc : (t.child pid).Ages { t.child pid with relay := ((t.child pid).relay.feed portion).2 } :=
    .of_eq rfl rfl rfl rfl rfl id
  exact ((setChild t pid hc).trans (say _ rfl)).trans (append _ _ _)

theorem relayPortions (pid : Pid) (portions : List Machine.Bytes) (t : Turn) :
    Side t (t.relayPortions pid portions).1 := by
  induction portions generalizing t with
  | nil => exact refl t
  | cons portion rest ih =>
    unfold Turn.relayPortions
    split
    · exact (relayPortion t pid portion).trans (ih _)
    · exact say t rfl

theorem relayAll (t : Turn) (pid : Pid) : Side t (t.relayAll pid).1 := by
  have hc : (t.child pid).Ages { t.child pid with output := [] } := .of_eq rfl rfl rfl rfl rfl id
  exact (setChild t pid hc).trans (relayPortions _ _ _)

theorem setProgress (t : Turn) (pid : Pid) {p : Progress}
    (h : (t.child pid).relay.isDone → p = .done) : Side t (t.setProgress pid p) :=
  setChild t pid (.of_eq rfl rfl rfl rfl rfl fun hd => by simp [Relay.isDone, h hd])

/-- A relay that has ended goes on no more. -/
theorem not_relays_setProgress (t : Turn) (pid : Pid) :
    ¬ (t.setProgress pid .done).room.Relays pid := by
  rw [Room.relays_iff]
  rintro ⟨hm, hn⟩
  have hm : pid ∈ t.room.pids := by rwa [← t.room.pids_setChild]
  change ((t.room.setChild _).child pid).relay.isDone = false at hn
  rw [Room.child_setChild, if_pos ⟨(t.room.child_pid pid).symm, hm⟩] at hn
  cases hn

theorem endRelay (t : Turn) (pid : Pid) : Side t (t.endRelay pid) := by
  unfold Turn.endRelay
  refine ((setProgress t pid fun _ => rfl).trans (jobs _ _)).trans (wakeCallers _ ?_)
  intro c _ hc
  have hp : c.phase = .joining pid := by simpa using hc
  rw [hp]
  exact not_relays_setProgress t pid

theorem relayEnd (t : Turn) (pid : Pid) (code : Int) : Side t (t.relayEnd pid code) :=
  (say t rfl).trans (endRelay _ _)

theorem progress_setChild {t : Turn} {pid : Pid} {c : Child}
    (h : c.relay.progress = (t.child pid).relay.progress) :
    ((t.setChild c).child pid).relay.progress = (t.child pid).relay.progress := by
  change ((t.room.setChild c).child pid).relay.progress = _
  rw [Room.child_setChild]
  split
  · exact h
  · rfl

theorem child_append (t : Turn) (pid p : Pid) (text : Terminal.StyledText) :
    (t.append pid text).child p = t.child p := by
  unfold Turn.append
  split <;> rfl

theorem progress_relayPortions (pid : Pid) (portions : List Machine.Bytes) (t : Turn) :
    ((t.relayPortions pid portions).1.child pid).relay.progress =
      (t.child pid).relay.progress := by
  induction portions generalizing t with
  | nil => rfl
  | cons portion rest ih =>
    unfold Turn.relayPortions
    split
    · rw [ih]
      unfold Turn.relayPortion
      rw [child_append]
      exact progress_setChild rfl
    · rfl

theorem progress_relayAll (t : Turn) (pid : Pid) :
    ((t.relayAll pid).1.child pid).relay.progress = (t.child pid).relay.progress :=
  (progress_relayPortions _ _ _).trans (progress_setChild rfl)

theorem relayOn (t : Turn) (pid : Pid) (h : (t.child pid).relay.isDone = false) :
    Side t (t.relayOn pid) := by
  have ha := relayAll t pid
  have hp := progress_relayAll t pid
  unfold Turn.relayOn
  generalize t.relayAll pid = out at *
  obtain ⟨u, isSound⟩ := out
  have hopen : (u.child pid).relay.isDone = false := by
    simpa [Relay.isDone, hp] using h
  simp only
  split
  · exact ha.trans (endRelay _ _)
  · split
    · have hc : (u.child pid).Ages { u.child pid with relay := (u.child pid).relay.tail.2 } :=
        .of_eq rfl rfl rfl rfl rfl id
      have hset := ha.trans (setChild u pid hc)
      have ht := hset.trans (append _ pid (u.child pid).relay.tail.1)
      split
      · exact ht.trans (relayEnd _ _ _)
      · have hstill : ((u.setChild { u.child pid with relay := (u.child pid).relay.tail.2 }).child
            pid).relay.progress = (u.child pid).relay.progress := progress_setChild rfl
        refine ht.trans (setProgress _ _ fun hd => ?_)
        simp only [child_append, Relay.isDone, hstill, decide_eq_true_eq] at hd
        simp [Relay.isDone, hd] at hopen
    · exact ha.trans (setProgress _ _ fun hd => by simp [hopen] at hd)

theorem relay (t : Turn) (pid : Pid) : Side t (t.relay pid) := by
  unfold Turn.relay
  simp only
  split
  · exact refl t
  · exact refl t
  · exact refl t
  · next hp => exact ite (endRelay _ _) (relayOn _ _ (by simp [Relay.isDone, hp]))
  · next hp => exact ite (endRelay _ _) (relayOn _ _ (by simp [Relay.isDone, hp]))
  · split
    · exact relayEnd _ _ _
    · exact endRelay _ _

/-! The process and the display. -/

theorem exit (t : Turn) (pid : Pid) (code : Int) : Side t (t.exit pid code) := by
  unfold Turn.exit
  simp only
  split
  · exact refl t
  · rename_i hn
    have hc : (t.child pid).code = none := by simpa [Child.hasEnded] using hn
    have hs : Side t (t.say (.exited pid code)) := say t rfl
    exact hs.trans (endChild (t.say (.exited pid code)) pid (.refl _) hc code)

theorem output (t : Turn) (pid : Pid) (portion : Machine.Bytes) :
    Side t (t.output pid portion) := by
  have hw : (t.child pid).Ages ((t.child pid).write portion) := by
    unfold Child.write
    split <;> exact .of_eq rfl rfl rfl rfl rfl id
  unfold Turn.output
  simp only
  split
  · exact (say t rfl).trans (rouse (t.say _) pid hw)
  · exact rouse t pid hw

theorem closeOutput (t : Turn) (pid : Pid) : Side t (t.closeOutput pid) :=
  rouse t pid (.of_eq rfl rfl rfl rfl rfl id)

theorem clear (t : Turn) : Side t t.clear := by
  unfold Turn.clear
  split
  · exact refl t
  · exact (display t _).trans (say _ rfl)

theorem openDisplay (t : Turn) : Side t t.openDisplay := display t _

end Side

/-- What happens on the side, with what is written, read and shown kept track of. -/
structure Drift (t u : Turn) : Prop extends Side t u where
  told : Told t u

namespace Drift

variable {t u w : Turn}

theorem refl (t : Turn) : Drift t t := ⟨.refl t, .refl⟩

theorem trans (h : Drift t u) (k : Drift u w) : Drift t w :=
  ⟨h.toSide.trans k.toSide, h.told.trans k.told⟩

theorem say (t : Turn) {x : Happening} (h : x.isAside) (quiet : x.isOutput = false) :
    Drift t (t.say x) := ⟨.say t h, (Quiet.say t quiet).told⟩

theorem ready (t : Turn) (j : Job) : Drift t (t.ready j) := ⟨.ready t j, (Quiet.ready t j).told⟩

theorem alarms (t : Turn) (as : List (CallId × Seconds)) : Drift t { t with alarms := as } :=
  have quiet : Quiet t { t with alarms := as } := .of_room rfl rfl ⟨[], rfl, by simp⟩
  ⟨.alarms t as, quiet.told⟩

/-- A process that ends does not run any more. -/
theorem not_runs_endChild (t : Turn) (c : Child) (code : Int) :
    ¬ (t.endChild c code).room.Runs c.pid := Side.not_runs_endChild t c code

theorem endChild (t : Turn) (pid : Pid) (hn : (t.child pid).code = none) (code : Int) :
    Drift t (t.endChild (t.child pid) code) :=
  ⟨.endChild t pid (.refl _) hn code,
    (Quiet.endChild t pid (t.room.child_pid pid) (.refl _) code).told⟩

theorem closeInput (t : Turn) (pid : Pid) : Drift t (t.closeInput pid) :=
  ⟨.closeInput t pid, (Quiet.closeInput t pid).told⟩

theorem cancelRelay (t : Turn) (pid : Pid) :
    Drift t (t.setChild (t.child pid).cancelRelay.1) :=
  ⟨.cancelRelay t pid, (Quiet.cancelRelay t pid).told⟩

theorem relay (t : Turn) (pid : Pid) : Drift t (t.relay pid) :=
  ⟨.relay t pid, (Murmur.relay t pid).told⟩

theorem exit (t : Turn) (pid : Pid) (code : Int) : Drift t (t.exit pid code) :=
  ⟨.exit t pid code, (Quiet.exit t pid code).told⟩

theorem output (t : Turn) (pid : Pid) (portion : Machine.Bytes) :
    Drift t (t.output pid portion) := ⟨.output t pid portion, (Murmur.output t pid portion).told⟩

theorem closeOutput (t : Turn) (pid : Pid) : Drift t (t.closeOutput pid) :=
  ⟨.closeOutput t pid, (Quiet.closeOutput t pid).told⟩

theorem clear (t : Turn) : Drift t t.clear := ⟨.clear t, (Murmur.clear t).told⟩

theorem openDisplay (t : Turn) : Drift t t.openDisplay :=
  ⟨.openDisplay t, (Quiet.openDisplay t).told⟩

end Drift

end Session

end ToolHost

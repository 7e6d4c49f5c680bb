import Mathlib
import ToolHost.Proofs.Session.Processes

/-!
# What relays show

A relay reads what its process writes, in order and without a gap, and puts on display what a fresh
relay would show of what it has read. This holds of every process of a room at any time, whether
its relay reads, has come to the end of the output, was told to end or broke down.
-/
namespace ToolHost

open Machine (Bytes)
open Terminal (StyledText)

namespace Happening

/-- What a process wrote. -/
def uttered? (pid : Pid) : Happening → Option Bytes
  | .uttered p portion => if p = pid then some portion else none
  | _ => none

/-- What was read of a process. -/
def produced? (pid : Pid) : Happening → Option Bytes
  | .produced _ p portion => if p = pid then some portion else none
  | _ => none

/-- What was put on display of a process. -/
def appended? (pid : Pid) : Happening → Option StyledText
  | .appended _ p text => if p = pid then some text else none
  | _ => none

/-- The process whose output is written, read or shown. -/
def source? : Happening → Option Pid
  | .uttered p _ | .produced _ p _ | .appended _ p _ => some p
  | _ => none

/-- What was put on display. -/
def text? : Happening → Option StyledText
  | .appended _ _ text => some text
  | _ => none

end Happening

namespace Session

/-! ## What events tell -/

/-- What some events tell, in the order in which they came about; the latest event comes first. -/
def recount {α : Type} (f : Happening → Option α) (xs : List Happening) : List α :=
  (xs.filterMap f).reverse

section Recount

variable {α : Type} {f : Happening → Option α}

@[simp] theorem recount_nil : recount f [] = [] := rfl

@[simp] theorem recount_cons (x : Happening) (xs : List Happening) :
    recount f (x :: xs) = recount f xs ++ (f x).toList := by
  cases h : f x <;> simp [recount, h]

@[simp] theorem recount_append (xs ys : List Happening) :
    recount f (xs ++ ys) = recount f ys ++ recount f xs := by
  simp [recount]

theorem recount_eq_nil {xs : List Happening} (h : ∀ x ∈ xs, f x = none) : recount f xs = [] := by
  simpa [recount] using h

end Recount

/-- What a process has written. -/
def uttered (pid : Pid) (xs : List Happening) : List Bytes := recount (·.uttered? pid) xs

/-- What has been read of a process. -/
def heard (pid : Pid) (xs : List Happening) : List Bytes := recount (·.produced? pid) xs

/-- What has been put on display of a process. -/
def displayed (pid : Pid) (xs : List Happening) : List StyledText := recount (·.appended? pid) xs

/-- What has been put on display since it was cleared. -/
def onDisplay : List Happening → List StyledText
  | [] => []
  | .cleared _ :: _ => []
  | x :: xs => onDisplay xs ++ x.text?.toList

/-! ## Reading -/

namespace Relay

/-- The relay after it has read portions. -/
def hear (r : Relay) (ps : List Bytes) : Relay := ps.foldl (fun r p => (r.feed p).2) r

/-- Whether portions can all be read, one after another. -/
def canReadAll (r : Relay) : List Bytes → Bool
  | [] => true
  | p :: rest => r.canRead p && (r.feed p).2.canReadAll rest

/-- What portions show, up to the first that cannot be read. -/
def texts (r : Relay) : List Bytes → List StyledText
  | [] => []
  | p :: rest => if r.canRead p then (r.feed p).1 :: (r.feed p).2.texts rest else []

theorem hear_concat (r : Relay) (ps : List Bytes) (p : Bytes) :
    r.hear (ps ++ [p]) = ((r.hear ps).feed p).2 := by
  simp [hear]

theorem canReadAll_concat (r : Relay) (ps : List Bytes) (p : Bytes) :
    r.canReadAll (ps ++ [p]) = (r.canReadAll ps && (r.hear ps).canRead p) := by
  induction ps generalizing r with
  | nil => simp [canReadAll, hear]
  | cons q ps ih => simp [canReadAll, ih, hear, Bool.and_assoc]

theorem texts_concat {r : Relay} {ps : List Bytes} (h : r.canReadAll ps) (p : Bytes) :
    r.texts (ps ++ [p]) =
      r.texts ps ++ if (r.hear ps).canRead p then [((r.hear ps).feed p).1] else [] := by
  induction ps generalizing r with
  | nil => rfl
  | cons q ps ih =>
    simp only [canReadAll, Bool.and_eq_true] at h
    simp only [List.cons_append, texts, h.1, if_true, ih h.2]
    rfl

theorem feed_ear (r : Relay) (p : Bytes) : (r.ear.feed p).1 = (r.feed p).1 := rfl

theorem canRead_ear (r : Relay) (p : Bytes) : r.ear.canRead p = r.canRead p := rfl

theorem tail_ear (r : Relay) : r.ear.tail.1 = r.tail.1 := rfl

end Relay

/-- What a fresh relay puts on display of portions, and of the end of the output if that has come.
A text without characters is not put there. -/
def showing (isOver : Bool) (ps : List Bytes) : List StyledText :=
  (({} : Relay).texts ps ++ if isOver then [(({} : Relay).hear ps).tail.1] else []).filter
    (!·.plain.isEmpty)

theorem showing_concat {ps : List Bytes} (h : ({} : Relay).canReadAll ps) (p : Bytes) :
    showing false (ps ++ [p]) = showing false ps ++
      (if (({} : Relay).hear ps).canRead p then [((({} : Relay).hear ps).feed p).1] else []).filter
        (!·.plain.isEmpty) := by
  simp [showing, Relay.texts_concat h]

theorem showing_true (ps : List Bytes) :
    showing true ps = showing false ps ++
      [(({} : Relay).hear ps).tail.1].filter (!·.plain.isEmpty) := by
  simp [showing]

/-- A process whose output was written, read and shown as told; `isOver` says whether its relay
has come to the end of the output. -/
structure Relayed (c : Child) (uttered heard : List Bytes) (shown : List StyledText)
    (isOver : Bool) : Prop where
  order : heard <+: uttered.flatMap portions
  shown : shown = showing isOver heard
  whole : isOver → c.outputClosed ∧ heard = uttered.flatMap portions ∧
    ({} : Relay).canReadAll heard
  reading : c.relay.isReading → isOver = false ∧
    uttered.flatMap portions = heard ++ c.output.flatMap portions ∧
    ({} : Relay).canReadAll heard ∧ c.relay.ear = ({} : Relay).hear heard
  early : isOver = false → c.relay.isReading ∨ c.relay.isCancelled ∨
    ({} : Relay).canReadAll heard = false ∨ c.traits.hasOutput = false

namespace Relayed

variable {c d : Child} {us hs : List Bytes} {ts : List StyledText} {isOver : Bool}

theorem birth (pid : Pid) (dir : Machine.Path) (traits : Traits) :
    Relayed { pid, dir, traits } [] [] [] false :=
  ⟨List.nil_prefix, rfl, nofun, fun _ => ⟨rfl, rfl, rfl, rfl⟩, fun _ => .inl rfl⟩

theorem keeps (h : Relayed c us hs ts isOver) (k : c.Keeps d) : Relayed d us hs ts isOver where
  order := h.order
  shown := h.shown
  whole ho := ⟨k.closed (h.whole ho).1, (h.whole ho).2⟩
  reading hr := by
    rw [k.output, k.ear]
    exact h.reading (k.isReading ▸ hr)
  early ho := by
    rw [k.isReading, k.hasOutput]
    exact (h.early ho).imp_right (.imp_left k.cancelled)

/-- The relay ends, either behind the end of the output or before for a reason. -/
theorem stop (h : Relayed c us hs ts isOver) (stopped : d.relay.isReading = false)
    (closed : d.outputClosed = c.outputClosed) (cancelled : d.relay.isCancelled = c.relay.isCancelled)
    (traits : d.traits = c.traits)
    (reason : c.relay.isReading → c.relay.isCancelled ∨ c.traits.hasOutput = false) :
    Relayed d us hs ts isOver where
  order := h.order
  shown := h.shown
  whole := closed ▸ h.whole
  reading hr := by rw [stopped] at hr; cases hr
  early ho := by
    rw [cancelled, traits]
    rcases h.early ho with hr | hr
    · rcases reason hr with hc | hc
      · exact .inr (.inl hc)
      · exact .inr (.inr (.inr hc))
    · exact .inr hr

theorem write (h : Relayed c us hs ts isOver) (portion : Bytes) :
    Relayed (c.write portion) (if c.outputClosed then us else us ++ [portion]) hs ts isOver := by
  by_cases hc : c.outputClosed
  · simpa [Child.write, hc] using h
  · have hempty : portions [] = [] := by simp [portions]
    have hflat : (us ++ [portion]).flatMap portions = us.flatMap portions ++ portions portion := by
      simp
    have hrelay : (c.write portion).relay = c.relay ∧ (c.write portion).traits = c.traits := by
      unfold Child.write
      split <;> exact ⟨rfl, rfl⟩
    have hout : (c.write portion).output.flatMap portions =
        c.output.flatMap portions ++ portions portion := by
      by_cases hp : portion = []
      · simp [Child.write, hp, hempty]
      · simp [Child.write, hp, hc]
    rw [if_neg hc]
    refine ⟨?_, h.shown, fun ho => absurd (h.whole ho).1 hc, ?_, ?_⟩
    · rw [hflat]
      exact h.order.trans (List.prefix_append _ _)
    · intro hr
      rw [hrelay.1] at hr ⊢
      obtain ⟨ho, hu, hk⟩ := h.reading hr
      exact ⟨ho, by rw [hflat, hu, hout, List.append_assoc], hk⟩
    · rw [hrelay.1, hrelay.2]
      exact h.early

end Relayed

/-! ## A room -/

/-- What events tell of a process agrees with the room. -/
def Airs (r : Room) (xs : List Happening) (p : Pid) : Prop :=
  (p ∈ r.pids → ∃ isOver, Relayed (r.child p) (uttered p xs) (heard p xs) (displayed p xs) isOver) ∧
    (p ∉ r.pids → uttered p xs = [] ∧ heard p xs = [] ∧ displayed p xs = [])

/-- What events tell of the output of all processes, and of the display, agrees with the room. -/
structure Aired (r : Room) (xs : List Happening) : Prop where
  airs : ∀ p, Airs r xs p
  display : r.display.getD [] = onDisplay xs

/-- Nothing that is written, read or shown is told of a process. -/
def Mute (p : Pid) (xs : List Happening) : Prop := ∀ x ∈ xs, x.source? ≠ some p

namespace Mute

variable {p : Pid} {xs : List Happening}

theorem of_quiet (h : ∀ x ∈ xs, x.isOutput = false) (p : Pid) : Mute p xs := by
  intro x hx
  have hq := h x hx
  cases x with
  | uttered | produced | appended => cases hq
  | _ => exact nofun

theorem append {ys : List Happening} (h : Mute p xs) (k : Mute p ys) : Mute p (xs ++ ys) := by
  intro x hx
  rcases List.mem_append.mp hx with hx | hx
  · exact h x hx
  · exact k x hx

/-- Of a process that is not told of nothing comes to be known. -/
theorem told (h : Mute p xs) (ys : List Happening) :
    uttered p (xs ++ ys) = uttered p ys ∧ heard p (xs ++ ys) = heard p ys ∧
      displayed p (xs ++ ys) = displayed p ys := by
  have none : ∀ x ∈ xs, x.uttered? p = .none ∧ x.produced? p = .none ∧ x.appended? p = .none := by
    intro x hx
    have hs := h x hx
    cases x with
    | uttered q => exact ⟨if_neg fun e => hs (congrArg some e), rfl, rfl⟩
    | produced _ q => exact ⟨rfl, if_neg fun e => hs (congrArg some e), rfl⟩
    | appended _ q => exact ⟨rfl, rfl, if_neg fun e => hs (congrArg some e)⟩
    | _ => exact ⟨rfl, rfl, rfl⟩
  have hu : recount (·.uttered? p) xs = [] := recount_eq_nil fun x hx => (none x hx).1
  have hh : recount (·.produced? p) xs = [] := recount_eq_nil fun x hx => (none x hx).2.1
  have hs : recount (·.appended? p) xs = [] := recount_eq_nil fun x hx => (none x hx).2.2
  simp [uttered, heard, displayed, hu, hh, hs]

end Mute

theorem onDisplay_cons {x : Happening} (h : x.isOutput = false) (xs : List Happening) :
    onDisplay (x :: xs) = onDisplay xs := by
  cases x <;> first | exact List.append_nil _ | cases h

theorem onDisplay_of_quiet {xs : List Happening} (h : ∀ x ∈ xs, x.isOutput = false)
    (ys : List Happening) : onDisplay (xs ++ ys) = onDisplay ys := by
  induction xs with
  | nil => rfl
  | cons x xs ih =>
    rw [List.cons_append, onDisplay_cons (h x List.mem_cons_self)]
    exact ih fun y hy => h y (List.mem_cons_of_mem _ hy)

theorem Airs.congr {r q : Room} {xs ys : List Happening} {p : Pid} (h : Airs r ys p)
    (mute : Mute p xs) (pids : q.pids = r.pids)
    (keeps : p ∈ r.pids → (r.child p).Keeps (q.child p)) : Airs q (xs ++ ys) p := by
  obtain ⟨hu, hh, hs⟩ := mute.told ys
  unfold Airs
  rw [hu, hh, hs, pids]
  refine ⟨fun hm => ?_, h.2⟩
  obtain ⟨isOver, hr⟩ := h.1 hm
  exact ⟨isOver, hr.keeps (keeps hm)⟩

theorem Quiet.aired {t u : Turn} (q : Quiet t u) {past : List Happening}
    (h : Aired t.room (t.trace ++ past)) : Aired u.room (u.trace ++ past) := by
  obtain ⟨xs, hx, quiet⟩ := q.trace
  rw [hx, List.append_assoc]
  refine ⟨fun p => (h.airs p).congr (.of_quiet quiet p) q.pids fun _ => q.keeps p, ?_⟩
  rw [q.display, onDisplay_of_quiet quiet, h.display]

/-! ## What a relay does -/

/-- Of all processes only the given one is concerned, and what is on display is what was put
there. -/
structure Only (pid : Pid) (t u : Turn) : Prop where
  pids : u.room.pids = t.room.pids
  children : ∀ p, p ≠ pid → u.room.child p = t.room.child p
  trace : ∃ xs, u.trace = xs ++ t.trace ∧ ∀ p, p ≠ pid → Mute p xs
  display : ∀ past, t.room.display.getD [] = onDisplay (t.trace ++ past) →
    u.room.display.getD [] = onDisplay (u.trace ++ past)

namespace Only

variable {pid : Pid} {t u w : Turn}

theorem of_quiet (q : Quiet t u) (children : ∀ p, p ≠ pid → u.room.child p = t.room.child p) :
    Only pid t u where
  pids := q.pids
  children := children
  trace := by
    obtain ⟨xs, hx, quiet⟩ := q.trace
    exact ⟨xs, hx, fun p _ => .of_quiet quiet p⟩
  display past h := by
    obtain ⟨xs, hx, quiet⟩ := q.trace
    rw [hx, List.append_assoc, q.display, onDisplay_of_quiet quiet, h]

theorem refl (pid : Pid) (t : Turn) : Only pid t t := of_quiet (.refl t) fun _ _ => rfl

theorem trans (h : Only pid t u) (k : Only pid u w) : Only pid t w where
  pids := k.pids.trans h.pids
  children p hp := (k.children p hp).trans (h.children p hp)
  trace := by
    obtain ⟨xs, hx, mx⟩ := h.trace
    obtain ⟨ys, hy, my⟩ := k.trace
    exact ⟨ys ++ xs, by rw [hy, hx, List.append_assoc], fun p hp => (my p hp).append (mx p hp)⟩
  display past hd := k.display past (h.display past hd)

theorem setChild (t : Turn) {c : Child} (hc : c.pid = pid) : Only pid t (t.setChild c) where
  pids := t.room.pids_setChild c
  children p hp := by
    change (t.room.setChild c).child p = _
    rw [Room.child_setChild, if_neg fun h => hp (h.1.trans hc)]
  trace := ⟨[], rfl, fun _ _ => nofun⟩
  display _ h := h

theorem say (t : Turn) {x : Happening} (h : x.isOutput = false) : Only pid t (t.say x) :=
  of_quiet (.say t h) fun _ _ => rfl

theorem produced (t : Turn) (pid : Pid) (portion : Bytes) :
    Only pid t (t.say (.produced t.room.name pid portion)) where
  pids := rfl
  children _ _ := rfl
  trace := ⟨[_], rfl, fun p hp x hx => by
    rw [List.mem_singleton.mp hx]
    exact fun e => hp (Option.some.inj e).symm⟩
  display past h := by
    have hd : onDisplay ((t.say (.produced t.room.name pid portion)).trace ++ past) =
        onDisplay (t.trace ++ past) := List.append_nil _
    exact h.trans hd.symm

theorem append (t : Turn) (pid : Pid) (text : StyledText) : Only pid t (t.append pid text) := by
  unfold Turn.append
  split
  · exact refl pid t
  · refine ⟨rfl, fun _ _ => rfl, ⟨[_], rfl, fun p hp x hx => ?_⟩, fun past h => ?_⟩
    · rw [List.mem_singleton.mp hx]
      exact fun e => hp (Option.some.inj e).symm
    · change t.room.display.getD [] ++ [text] = onDisplay (t.trace ++ past) ++ [text]
      rw [h]

theorem relayPortion (t : Turn) (pid : Pid) (portion : Bytes) :
    Only pid t (t.relayPortion pid portion) :=
  have hset : Only pid t
      (t.setChild { t.child pid with relay := ((t.child pid).relay.feed portion).2 }) :=
    setChild t (t.room.child_pid pid)
  (hset.trans (produced _ pid portion)).trans (append _ pid _)

theorem relayPortions (pid : Pid) (ps : List Bytes) (t : Turn) :
    Only pid t (t.relayPortions pid ps).1 := by
  induction ps generalizing t with
  | nil => exact refl pid t
  | cons p ps ih =>
    unfold Turn.relayPortions
    split
    · exact (relayPortion t pid p).trans (ih _)
    · exact produced t pid p

theorem setProgress (t : Turn) (pid : Pid) (p : Progress) : Only pid t (t.setProgress pid p) :=
  setChild t (t.room.child_pid pid)

theorem endRelay (t : Turn) (pid : Pid) : Only pid t (t.endRelay pid) :=
  (setProgress t pid .done).trans (of_quiet (.of_room rfl rfl ⟨[], rfl, by simp⟩) fun _ _ => rfl)

theorem relayEnd (t : Turn) (pid : Pid) (code : Int) : Only pid t (t.relayEnd pid code) :=
  (say t rfl).trans (endRelay _ pid)

theorem relayOn (t : Turn) (pid : Pid) : Only pid t (t.relayOn pid) := by
  have hset : Only pid t (t.setChild { t.child pid with output := [] }) :=
    setChild t (t.room.child_pid pid)
  have ha : Only pid t (t.relayAll pid).1 := hset.trans (relayPortions pid _ _)
  unfold Turn.relayOn
  generalize t.relayAll pid = out at *
  obtain ⟨u, isSound⟩ := out
  simp only
  split
  · exact ha.trans (endRelay u pid)
  · split
    · have ht : Only pid u (u.setChild { u.child pid with relay := (u.child pid).relay.tail.2 }) :=
        setChild u (u.room.child_pid pid)
      have hb := (ha.trans ht).trans (append _ pid (u.child pid).relay.tail.1)
      split
      · exact hb.trans (relayEnd _ pid _)
      · exact hb.trans (setProgress _ pid _)
    · exact ha.trans (setProgress u pid _)

theorem relay (t : Turn) (pid : Pid) : Only pid t (t.relay pid) := by
  unfold Turn.relay
  simp only
  split
  · exact refl pid t
  · exact refl pid t
  · exact refl pid t
  · split
    · exact endRelay t pid
    · exact relayOn t pid
  · split
    · exact endRelay t pid
    · exact relayOn t pid
  · split
    · exact relayEnd t pid _
    · exact endRelay t pid

end Only

/-- A relay in the middle of reading: some portions are still to be read. -/
structure Hearing (pid : Pid) (past : List Happening) (unread : List Bytes) (t : Turn) : Prop where
  mem : pid ∈ t.room.pids
  output : (t.child pid).output = []
  reading : (t.child pid).relay.isReading
  told : (uttered pid (t.trace ++ past)).flatMap portions = heard pid (t.trace ++ past) ++ unread
  readable : ({} : Relay).canReadAll (heard pid (t.trace ++ past))
  ear : (t.child pid).relay.ear = ({} : Relay).hear (heard pid (t.trace ++ past))
  shown : displayed pid (t.trace ++ past) = showing false (heard pid (t.trace ++ past))

/-- A relay that has met a portion that it cannot read. -/
structure Broken (pid : Pid) (past : List Happening) (t : Turn) : Prop where
  order : heard pid (t.trace ++ past) <+: (uttered pid (t.trace ++ past)).flatMap portions
  unreadable : ({} : Relay).canReadAll (heard pid (t.trace ++ past)) = false
  shown : displayed pid (t.trace ++ past) = showing false (heard pid (t.trace ++ past))

section Reading

variable {pid : Pid} {past : List Happening} {t : Turn}

/-- What is told of a process when a text of it is put on display. -/
theorem told_append (t : Turn) (pid : Pid) (text : StyledText) (past : List Happening) :
    uttered pid ((t.append pid text).trace ++ past) = uttered pid (t.trace ++ past) ∧
      heard pid ((t.append pid text).trace ++ past) = heard pid (t.trace ++ past) ∧
      displayed pid ((t.append pid text).trace ++ past) =
        displayed pid (t.trace ++ past) ++ [text].filter (!·.plain.isEmpty) := by
  unfold Turn.append
  by_cases h : text.plain.isEmpty
  · simp [h]
  · simp [h, Turn.say, uttered, heard, displayed, Happening.uttered?, Happening.produced?,
      Happening.appended?]

theorem Hearing.portion {portion : Bytes} {rest : List Bytes}
    (h : Hearing pid past (portion :: rest) t) (can : (t.child pid).relay.canRead portion) :
    Hearing pid past rest (t.relayPortion pid portion) := by
  have hchild : (t.relayPortion pid portion).child pid =
      { t.child pid with relay := ((t.child pid).relay.feed portion).2 } := by
    unfold Turn.relayPortion
    rw [Side.child_append]
    exact Turn.child_setChild (t.room.child_pid pid) h.mem
  have hcan : (({} : Relay).hear (heard pid (t.trace ++ past))).canRead portion := by
    rw [← h.ear, Relay.canRead_ear]
    exact can
  obtain ⟨hu, hh, hs⟩ := told_append ((t.setChild { t.child pid with
    relay := ((t.child pid).relay.feed portion).2 }).say (.produced t.room.name pid portion)) pid
    ((t.child pid).relay.feed portion).1 past
  have hu : uttered pid ((t.relayPortion pid portion).trace ++ past) =
      uttered pid (t.trace ++ past) := by
    refine hu.trans ?_
    simp [Turn.say, Turn.setChild, uttered, Happening.uttered?]
  have hh : heard pid ((t.relayPortion pid portion).trace ++ past) =
      heard pid (t.trace ++ past) ++ [portion] := by
    refine hh.trans ?_
    simp [Turn.say, Turn.setChild, heard, Happening.produced?]
  have hs : displayed pid ((t.relayPortion pid portion).trace ++ past) =
      displayed pid (t.trace ++ past) ++
        [((t.child pid).relay.feed portion).1].filter (!·.plain.isEmpty) := by
    refine hs.trans ?_
    simp [Turn.say, Turn.setChild, displayed, Happening.appended?]
  refine ⟨?_, ?_, ?_, ?_, ?_, ?_, ?_⟩
  · rw [(Only.relayPortion t pid portion).pids]
    exact h.mem
  · rw [hchild]
    exact h.output
  · rw [hchild]
    exact h.reading
  · rw [hu, hh, h.told]
    simp
  · rw [hh, Relay.canReadAll_concat, h.readable, hcan]
    rfl
  · rw [hchild, hh, Relay.hear_concat, ← h.ear]
    rfl
  · rw [hh, hs, h.shown, showing_concat h.readable, if_pos hcan, ← h.ear, Relay.feed_ear]

theorem Hearing.portions {unread : List Bytes} (h : Hearing pid past unread t) :
    if (t.relayPortions pid unread).2 then Hearing pid past [] (t.relayPortions pid unread).1
    else Broken pid past (t.relayPortions pid unread).1 := by
  induction unread generalizing t with
  | nil => exact h
  | cons portion rest ih =>
    unfold Turn.relayPortions
    by_cases can : (t.child pid).relay.canRead portion
    · rw [if_pos can]
      exact ih (h.portion can)
    · have hcan : (({} : Relay).hear (heard pid (t.trace ++ past))).canRead portion = false := by
        rw [← h.ear, Relay.canRead_ear]
        simpa using can
      have hh : heard pid ((t.say (.produced t.room.name pid portion)).trace ++ past) =
          heard pid (t.trace ++ past) ++ [portion] := by
        simp [Turn.say, heard, Happening.produced?]
      have hu : uttered pid ((t.say (.produced t.room.name pid portion)).trace ++ past) =
          uttered pid (t.trace ++ past) := by
        simp [Turn.say, uttered, Happening.uttered?]
      have hs : displayed pid ((t.say (.produced t.room.name pid portion)).trace ++ past) =
          displayed pid (t.trace ++ past) := by
        simp [Turn.say, displayed, Happening.appended?]
      rw [if_neg can]
      refine ⟨?_, ?_, ?_⟩
      · rw [hh, hu, h.told]
        exact ⟨rest, by simp⟩
      · rw [hh, Relay.canReadAll_concat, hcan, Bool.and_false]
      · rw [hh, hs, h.shown, showing_concat h.readable, hcan]
        simp

theorem Turn.child_setProgress (mem : pid ∈ t.room.pids) (p : Progress) :
    (t.setProgress pid p).child pid =
      { t.child pid with relay := { (t.child pid).relay with progress := p } } :=
  Turn.child_setChild (t.room.child_pid pid) mem

theorem Turn.child_endRelay (mem : pid ∈ t.room.pids) :
    (t.endRelay pid).child pid =
      { t.child pid with relay := { (t.child pid).relay with progress := .done } } :=
  Turn.child_setProgress mem .done

theorem Turn.child_relayEnd (mem : pid ∈ t.room.pids) (code : Int) :
    (t.relayEnd pid code).child pid =
      { t.child pid with relay := { (t.child pid).relay with progress := .done } } :=
  Turn.child_endRelay (t := t.say (.ended t.room.name pid code)) mem

theorem Turn.trace_endRelay (t : Turn) (pid : Pid) : (t.endRelay pid).trace = t.trace := rfl

theorem Turn.trace_relayEnd (t : Turn) (pid : Pid) (code : Int) :
    (t.relayEnd pid code).trace = .ended t.room.name pid code :: t.trace := rfl

/-- A relay that has met what it cannot read ends. -/
theorem Broken.endRelay (h : Broken pid past t) (mem : pid ∈ t.room.pids) :
    Relayed ((t.endRelay pid).child pid) (uttered pid (t.trace ++ past))
      (heard pid (t.trace ++ past)) (displayed pid (t.trace ++ past)) false := by
  refine ⟨h.order, h.shown, nofun, ?_, fun _ => .inr (.inr (.inl h.unreadable))⟩
  rw [Turn.child_endRelay mem]
  exact fun hr => nomatch hr

/-- A relay that has read all there is waits for more. -/
theorem Hearing.pause (h : Hearing pid past [] t) :
    Relayed ((t.setProgress pid .reading).child pid) (uttered pid (t.trace ++ past))
      (heard pid (t.trace ++ past)) (displayed pid (t.trace ++ past)) false := by
  have htold := h.told
  rw [List.append_nil] at htold
  refine ⟨htold ▸ List.prefix_refl _, h.shown, nofun, ?_, ?_⟩
  · rw [Turn.child_setProgress h.mem]
    exact fun _ => ⟨rfl, by rw [h.output, htold]; simp, h.readable, h.ear⟩
  · rw [Turn.child_setProgress h.mem]
    exact fun _ => .inl rfl

/-- The relay puts what is held back on display. -/
def Turn.showTail (t : Turn) (pid : Pid) : Turn :=
  (t.setChild { t.child pid with relay := (t.child pid).relay.tail.2 }).append pid
    (t.child pid).relay.tail.1

theorem Turn.relayOn_eq (t : Turn) (pid : Pid) : t.relayOn pid =
    if (t.relayAll pid).2 = false then (t.relayAll pid).1.endRelay pid
    else if ((t.relayAll pid).1.child pid).outputClosed then
      match ((t.relayAll pid).1.child pid).code with
      | some code => ((t.relayAll pid).1.showTail pid).relayEnd pid code
      | none => ((t.relayAll pid).1.showTail pid).setProgress pid .awaiting
    else (t.relayAll pid).1.setProgress pid .reading := by
  unfold relayOn
  generalize t.relayAll pid = out
  obtain ⟨u, isSound⟩ := out
  cases isSound <;> rfl

theorem Turn.child_showTail (mem : pid ∈ t.room.pids) :
    (t.showTail pid).child pid = { t.child pid with relay := (t.child pid).relay.tail.2 } :=
  (Side.child_append _ pid pid _).trans (Turn.child_setChild (t.room.child_pid pid) mem)

theorem Only.showTail (t : Turn) (pid : Pid) : Only pid t (t.showTail pid) :=
  have hset : Only pid t (t.setChild { t.child pid with relay := (t.child pid).relay.tail.2 }) :=
    setChild t (t.room.child_pid pid)
  hset.trans (append _ pid _)

theorem Turn.mem_showTail (mem : pid ∈ t.room.pids) : pid ∈ (t.showTail pid).room.pids :=
  (Only.showTail t pid).pids.symm ▸ mem

/-- A relay that has come to the end of the output and has shown what is held back reads no
more. -/
theorem Hearing.finish (h : Hearing pid past [] t) (closed : (t.child pid).outputClosed)
    {u : Turn} {xs : List Happening} (trace : u.trace = xs ++ (t.showTail pid).trace)
    (mute : Mute pid xs) {p : Progress} (isOver : p = .done ∨ p = .awaiting)
    (child : u.child pid = { (t.showTail pid).child pid with
      relay := { ((t.showTail pid).child pid).relay with progress := p } }) :
    Relayed (u.child pid) (uttered pid (u.trace ++ past)) (heard pid (u.trace ++ past))
      (displayed pid (u.trace ++ past)) true := by
  have htold := h.told
  rw [List.append_nil] at htold
  obtain ⟨hu, hh, hs⟩ := told_append
    (t.setChild { t.child pid with relay := (t.child pid).relay.tail.2 }) pid
    (t.child pid).relay.tail.1 past
  obtain ⟨mu, mh, ms⟩ := mute.told ((t.showTail pid).trace ++ past)
  have hshown : displayed pid ((t.showTail pid).trace ++ past) =
      showing true (heard pid (t.trace ++ past)) := by
    refine hs.trans ?_
    rw [showing_true, ← h.ear, Relay.tail_ear, ← h.shown]
    rfl
  rw [trace, List.append_assoc, mu, mh, ms, hshown]
  change Relayed _ (uttered pid (((t.setChild _).append pid _).trace ++ past))
    (heard pid (((t.setChild _).append pid _).trace ++ past)) _ true
  rw [hu, hh]
  change Relayed _ (uttered pid (t.trace ++ past)) (heard pid (t.trace ++ past)) _ true
  rw [child, Turn.child_showTail h.mem]
  refine ⟨htold ▸ List.prefix_refl _, rfl, fun _ => ⟨closed, htold.symm, h.readable⟩, ?_, nofun⟩
  rcases isOver with rfl | rfl <;> exact fun hr => nomatch hr

end Reading

/-- A relay that may read has all that was written and not read before it. -/
theorem Relayed.hearing {pid : Pid} {past : List Happening} {t : Turn} {isOver : Bool}
    (h : Relayed (t.child pid) (uttered pid (t.trace ++ past)) (heard pid (t.trace ++ past))
      (displayed pid (t.trace ++ past)) isOver)
    (mem : pid ∈ t.room.pids) (reading : (t.child pid).relay.isReading) :
    Hearing pid past ((t.child pid).output.flatMap portions)
      (t.setChild { t.child pid with output := [] }) := by
  obtain ⟨rfl, htold, hreadable, hear⟩ := h.reading reading
  have hpid : ({ t.child pid with output := [] } : Child).pid = pid := t.room.child_pid pid
  have hchild := Turn.child_setChild (t := t) hpid mem
  refine ⟨?_, ?_, ?_, htold, hreadable, ?_, h.shown⟩
  · rw [(Only.setChild t hpid).pids]
    exact mem
  · rw [hchild]
  · rw [hchild]
    exact reading
  · rw [hchild]
    exact hear

/-- How a relay goes on that may read. -/
inductive ReadsOn (pid : Pid) (past : List Happening) (t : Turn) : Prop
  /-- It has met what it cannot read, and ends. -/
  | breaks (u : Turn) (mem : pid ∈ u.room.pids) (broken : Broken pid past u)
      (eq : t.relayOn pid = u.endRelay pid)
  /-- It has come to the end of the output, and the process has ended. -/
  | ends (u : Turn) (heard : Hearing pid past [] u) (closed : (u.child pid).outputClosed)
      (code : Int) (ended : (u.child pid).code = some code)
      (eq : t.relayOn pid = (u.showTail pid).relayEnd pid code)
  /-- It has come to the end of the output, and waits for the process to end. -/
  | awaits (u : Turn) (heard : Hearing pid past [] u) (closed : (u.child pid).outputClosed)
      (eq : t.relayOn pid = (u.showTail pid).setProgress pid .awaiting)
  /-- It waits for more. -/
  | pauses (u : Turn) (heard : Hearing pid past [] u)
      (eq : t.relayOn pid = u.setProgress pid .reading)

theorem Relayed.readsOn {pid : Pid} {past : List Happening} {t : Turn} {isOver : Bool}
    (h : Relayed (t.child pid) (uttered pid (t.trace ++ past)) (heard pid (t.trace ++ past))
      (displayed pid (t.trace ++ past)) isOver)
    (mem : pid ∈ t.room.pids) (reading : (t.child pid).relay.isReading) : ReadsOn pid past t := by
  have all : if (t.relayAll pid).2 then Hearing pid past [] (t.relayAll pid).1
      else Broken pid past (t.relayAll pid).1 := (h.hearing mem reading).portions
  have goes := Turn.relayOn_eq t pid
  cases sound : (t.relayAll pid).2 with
  | false =>
    rw [sound, if_neg Bool.false_ne_true] at all
    rw [sound, if_pos rfl] at goes
    exact .breaks _ ((Side.relayAll t pid).pids.symm ▸ mem) all goes
  | true =>
    rw [sound, if_pos rfl] at all
    rw [sound, if_neg (by decide)] at goes
    by_cases closed : ((t.relayAll pid).1.child pid).outputClosed
    · rw [if_pos closed] at goes
      cases ended : ((t.relayAll pid).1.child pid).code with
      | some code => exact .ends _ all closed code ended (by simpa only [ended] using goes)
      | none => exact .awaits _ all closed (by simpa only [ended] using goes)
    · rw [if_neg closed] at goes
      exact .pauses _ all goes

/-- What a relay that reads on does is told rightly. -/
theorem airs_relayOn {pid : Pid} {past : List Happening} {t : Turn} (mem : pid ∈ t.room.pids)
    (h : ∃ isOver, Relayed (t.child pid) (uttered pid (t.trace ++ past))
      (heard pid (t.trace ++ past)) (displayed pid (t.trace ++ past)) isOver)
    (reading : (t.child pid).relay.isReading) :
    ∃ isOver, Relayed ((t.relayOn pid).child pid) (uttered pid ((t.relayOn pid).trace ++ past))
      (heard pid ((t.relayOn pid).trace ++ past))
      (displayed pid ((t.relayOn pid).trace ++ past)) isOver := by
  obtain ⟨isOver, h⟩ := h
  cases h.readsOn mem reading with
  | breaks u mem broken eq =>
    rw [eq, Turn.trace_endRelay]
    exact ⟨false, broken.endRelay mem⟩
  | ends u hearing closed code ended eq =>
    have mute : Mute pid [.ended (u.showTail pid).room.name pid code] :=
      .of_quiet (by simp [Happening.isOutput]) pid
    rw [eq]
    exact ⟨true, hearing.finish closed rfl mute (.inl rfl)
      (Turn.child_relayEnd (Turn.mem_showTail hearing.mem) code)⟩
  | awaits u hearing closed eq =>
    have mute : Mute pid [] := List.forall_mem_nil _
    rw [eq]
    exact ⟨true, hearing.finish closed rfl mute (.inr rfl)
      (Turn.child_setProgress (Turn.mem_showTail hearing.mem) .awaiting)⟩
  | pauses u hearing eq =>
    rw [eq]
    exact ⟨false, hearing.pause⟩

/-- Nothing is told of a process that was never created. -/
theorem trace_relay_of_notMem {pid : Pid} {t : Turn} (mem : pid ∉ t.room.pids) :
    (t.relay pid).trace = t.trace := by
  have absent : t.room.child? pid = none := by simpa [← Room.child?_isSome] using mem
  have hchild (c : Child) : (t.setChild c).child pid = { pid } := by
    change (t.room.setChild c).child pid = { pid }
    rw [Room.child_setChild, if_neg fun h => mem h.2, Room.child, absent]
    rfl
  have hself : t.child pid = { pid } := by
    change t.room.child pid = _
    rw [Room.child, absent]
    rfl
  have hall : t.relayAll pid = (t.setChild { pid }, true) := by
    rw [Turn.relayAll, hself]
    rfl
  have hrelay : t.relay pid = t.relayOn pid := by
    rw [Turn.relay, hself]
    rfl
  have hclosed : ((t.setChild { pid }).child pid).outputClosed = false := by rw [hchild]
  rw [hrelay, Turn.relayOn_eq, hall, if_neg Bool.noConfusion, hclosed, if_neg Bool.false_ne_true]
  rfl

theorem airs_relay {pid : Pid} {past : List Happening} {t : Turn}
    (h : Airs t.room (t.trace ++ past) pid) :
    Airs (t.relay pid).room ((t.relay pid).trace ++ past) pid := by
  by_cases mem : pid ∈ t.room.pids
  · refine ⟨fun _ => ?_, fun hn => absurd ((Only.relay t pid).pids ▸ mem) hn⟩
    have own := h.1 mem
    obtain ⟨isOver, hr⟩ := h.1 mem
    have ends (reason : (t.child pid).relay.isReading →
        (t.child pid).relay.isCancelled ∨ (t.child pid).traits.hasOutput = false) :
        ∃ isOver, Relayed ((t.endRelay pid).child pid)
          (uttered pid ((t.endRelay pid).trace ++ past)) (heard pid ((t.endRelay pid).trace ++ past))
          (displayed pid ((t.endRelay pid).trace ++ past)) isOver := by
      rw [Turn.child_endRelay mem, Turn.trace_endRelay]
      exact ⟨isOver, hr.stop rfl rfl rfl rfl reason⟩
    unfold Turn.relay
    simp only
    split
    · exact own
    · exact own
    · exact own
    · next hp =>
      split
      · next hc => exact ends fun _ => by simpa using hc
      · exact airs_relayOn mem own (by simp [Relay.isReading, hp])
    · next hp =>
      split
      · next hc => exact ends fun _ => .inl hc
      · exact airs_relayOn mem own (by simp [Relay.isReading, hp])
    · next hp =>
      have reason : (t.child pid).relay.isReading → (t.child pid).relay.isCancelled ∨
          (t.child pid).traits.hasOutput = false := fun hr => by simp [Relay.isReading, hp] at hr
      split
      · next code _ _ =>
        have mute : Mute pid [.ended t.room.name pid code] :=
          .of_quiet (by simp [Happening.isOutput]) pid
        obtain ⟨mu, mh, ms⟩ := mute.told (t.trace ++ past)
        rw [List.singleton_append] at mu mh ms
        rw [Turn.trace_relayEnd, List.cons_append, mu, mh, ms]
        change ∃ isOver, Relayed ((t.relayEnd pid code).child pid) _ _ _ isOver
        rw [Turn.child_relayEnd mem]
        exact ⟨isOver, hr.stop rfl rfl rfl rfl reason⟩
      · exact ends reason
  · have hpids := (Only.relay t pid).pids
    unfold Airs
    rw [trace_relay_of_notMem mem, hpids]
    exact ⟨fun hm => absurd hm mem, h.2⟩

namespace Only

variable {pid : Pid} {t u : Turn}

theorem aired (o : Only pid t u) {past : List Happening} (h : Aired t.room (t.trace ++ past))
    (own : Airs u.room (u.trace ++ past) pid) : Aired u.room (u.trace ++ past) := by
  refine ⟨fun p => ?_, o.display past h.display⟩
  by_cases hp : p = pid
  · exact hp ▸ own
  · obtain ⟨xs, hx, mute⟩ := o.trace
    rw [hx, List.append_assoc]
    refine (h.airs p).congr (mute p hp) o.pids fun _ => ?_
    rw [o.children p hp]
    exact .refl _

theorem rouse (t : Turn) {c : Child} (hc : c.pid = pid) : Only pid t (t.rouse c) := by
  have hpid : c.rouse.1.pid = pid := c.rouse_pid.trans hc
  unfold Turn.rouse
  simp only
  split
  · exact (setChild t hpid).trans (of_quiet (.ready _ _) fun _ _ => rfl)
  · exact setChild t hpid

end Only

theorem Turn.child_rouse {t : Turn} {c : Child} {pid : Pid} (hc : c.pid = pid)
    (mem : pid ∈ t.room.pids) : (t.rouse c).child pid = c.rouse.1 := by
  have hpid : c.rouse.1.pid = pid := c.rouse_pid.trans hc
  unfold rouse
  simp only
  split <;> exact child_setChild hpid mem

theorem Turn.trace_rouse (t : Turn) (c : Child) : (t.rouse c).trace = t.trace := by
  unfold rouse
  simp only
  split <;> rfl

theorem aired_output {t : Turn} {past : List Happening} (h : Aired t.room (t.trace ++ past))
    (pid : Pid) (portion : Bytes) :
    Aired (t.output pid portion).room ((t.output pid portion).trace ++ past) := by
  have hpid : ((t.child pid).write portion).pid = pid :=
    (Child.write_pid _ _).trans (t.room.child_pid pid)
  have hsay : Only pid t (t.say (.uttered pid portion)) := by
    refine ⟨rfl, fun _ _ => rfl, ⟨[_], rfl, fun p hp x hx => ?_⟩, fun past h => ?_⟩
    · rw [List.mem_singleton.mp hx]
      exact fun e => hp (Option.some.inj e).symm
    · exact h.trans (List.append_nil _).symm
  have only : Only pid t (t.output pid portion) := by
    unfold Turn.output
    simp only
    split
    · exact hsay.trans (.rouse _ hpid)
    · exact .rouse t hpid
  refine only.aired h ?_
  by_cases mem : pid ∈ t.room.pids
  · obtain ⟨isOver, hr⟩ := (h.airs pid).1 mem
    refine ⟨fun _ => ⟨isOver, ?_⟩, fun hn => absurd (only.pids ▸ mem) hn⟩
    change Relayed (t.child pid) _ _ _ _ at hr
    have hw := (hr.write portion).keeps ((t.child pid).write portion).keeps_rouse
    have hsome := (t.room.child?_isSome pid).mpr mem
    unfold Turn.output
    simp only [hsome, Bool.true_and]
    by_cases closed : (t.child pid).outputClosed
    · rw [if_pos closed] at hw
      rw [if_neg (by simp [closed]), Turn.trace_rouse]
      change Relayed ((t.rouse _).child pid) _ _ _ _
      rw [Turn.child_rouse hpid mem]
      exact hw
    · rw [if_neg closed] at hw
      rw [if_pos (by simp [closed]), Turn.trace_rouse]
      change Relayed (((t.say _).rouse _).child pid) _ _ _ _
      rw [Turn.child_rouse (t := t.say (.uttered pid portion)) hpid mem]
      change Relayed _ (uttered pid (.uttered pid portion :: (t.trace ++ past)))
        (heard pid (.uttered pid portion :: (t.trace ++ past)))
        (displayed pid (.uttered pid portion :: (t.trace ++ past))) _
      simpa [uttered, heard, displayed, Happening.uttered?, Happening.produced?,
        Happening.appended?] using hw
  · have absent : (t.room.child? pid).isSome = false :=
      Bool.eq_false_iff.mpr fun h => mem ((t.room.child?_isSome pid).mp h)
    have htrace : (t.output pid portion).trace = t.trace := by
      unfold Turn.output
      simp only [absent, Bool.false_and]
      exact Turn.trace_rouse t _
    unfold Airs
    rw [htrace, only.pids]
    exact ⟨fun hm => absurd hm mem, (h.airs pid).2⟩

theorem aired_clear {t : Turn} {past : List Happening} (h : Aired t.room (t.trace ++ past)) :
    Aired t.clear.room (t.clear.trace ++ past) := by
  unfold Turn.clear
  split
  · exact h
  · refine ⟨fun p => ?_, rfl⟩
    have mute : Mute p [.cleared t.room.name] := by simp [Mute, Happening.source?]
    exact (h.airs p).congr mute rfl fun _ => .refl _

/-- Whatever is told on the side is told rightly. -/
theorem Told.aired {t u : Turn} (told : Told t u) {past : List Happening}
    (h : Aired t.room (t.trace ++ past)) : Aired u.room (u.trace ++ past) := by
  induction told with
  | refl => exact h
  | tail _ step ih =>
    cases step with
    | quiet q => exact q.aired ih
    | output pid portion => exact aired_output ih pid portion
    | relay pid => exact (Only.relay _ pid).aired ih (airs_relay (ih.airs pid))
    | clear => exact aired_clear ih

/-! ## A course -/

/-- The session of a process is stopped, and the process goes on as it did. -/
theorem Quiet.pop (t : Turn) (pid : Pid) : Quiet t (t.pop pid) where
  pids := t.pids_pop pid
  keeps p := by
    rw [Turn.child_pop]
    split
    · exact ⟨rfl, rfl, rfl, rfl, rfl, id, id, id, .inl⟩
    · exact .refl _
  display := rfl
  trace := ⟨[], rfl, by simp⟩

/-- A small step either tells what it does, or creates a process. -/
theorem Move.tells {f g : Focus} {t u : Turn} (m : Move f t g u) (s : Sound f t.room) :
    Told t u ∨ ∃ dir b, b.pid ∉ t.room.pids ∧ (∃ v, f = .inside v .vacant) ∧
      u = { t with room := t.room.adopt dir b } := by
  have say (x : Happening) (hx : x.isOutput = false) {u : Turn}
      (children : u.room.children = t.room.children) (display : u.room.display = t.room.display)
      (trace : u.trace = x :: t.trace) : Told t u :=
    (Quiet.of_room children (by rw [display]) ⟨[x], trace, by simpa using hx⟩).told
  have still {u : Turn} (children : u.room.children = t.room.children)
      (display : u.room.display = t.room.display) (trace : u.trace = t.trace) : Told t u :=
    (Quiet.of_room children (by rw [display]) ⟨[], trace, by simp⟩).told
  cases m with
  | drift hd _ => exact .inl hd.told
  | adopt dir b fresh => exact .inr ⟨dir, b, fresh, ⟨_, rfl⟩, rfl⟩
  | approach _ => exact .inl (say _ rfl rfl rfl rfl)
  | enter _ => exact .inl (say _ rfl rfl rfl rfl)
  | letIn mem latch phase wake => exact .inl (say _ rfl rfl rfl rfl)
  | retreat mem latch phase wake eq =>
    subst eq
    split
    · exact .inl (still rfl rfl rfl)
    · exact .inl (still (Turn.children_invite _ _ _) (by rw [Turn.room_invite]; rfl)
        (Turn.trace_invite _ _ _))
  | pop line recorded => exact .inl (Quiet.pop t _).told
  | release =>
    exact .inl (say _ rfl (Turn.children_invite _ _ _) (by
      rw [Turn.release, Turn.room_invite]; rfl) (Turn.trace_invite _ _ _))
  | stumble lacks => exact absurd lacks s.counted.sound
  | write live input => exact .inl (say _ rfl rfl rfl rfl)
  | _ => exact .inl (still rfl rfl rfl)

/-- Of a new process nothing is told yet. -/
theorem Aired.adopt {r : Room} {xs : List Happening} (h : Aired r xs) (dir : Machine.Path)
    {b : Birth} (fresh : b.pid ∉ r.pids) : Aired (r.adopt dir b) xs := by
  refine ⟨fun p => ?_, h.display⟩
  unfold Airs
  rw [Room.pids_adopt, Room.child_adopt fresh, List.mem_append, List.mem_singleton]
  by_cases hp : p = b.pid
  · obtain ⟨hu, hh, hs⟩ := (h.airs p).2 (hp ▸ fresh)
    rw [if_pos hp, hu, hh, hs]
    exact ⟨fun _ => ⟨false, .birth _ _ _⟩, fun hn => absurd (.inr hp) hn⟩
  · rw [if_neg hp]
    exact ⟨fun hm => (h.airs p).1 (hm.resolve_right hp), fun hn => (h.airs p).2 fun hm => hn (.inl hm)⟩

theorem Move.aired {f g : Focus} {t u : Turn} (m : Move f t g u) (s : Sound f t.room)
    {past : List Happening} (h : Aired t.room (t.trace ++ past)) :
    Aired u.room (u.trace ++ past) := by
  rcases m.tells s with told | ⟨dir, b, fresh, _, rfl⟩
  · exact told.aired h
  · exact h.adopt dir fresh

/-- What telling keeps, and the creation of a process too, holds of every room and of all that has
happened there. -/
theorem Course.tells {P : Room → List Happening → Prop} {name : SessionName} (start : P { name } [])
    (told : ∀ {t u : Turn} {past}, Told t u → P t.room (t.trace ++ past) →
      P u.room (u.trace ++ past))
    (adopt : ∀ {r : Room} {xs} (dir : Machine.Path) {b : Birth}, b.pid ∉ r.pids → P r xs →
      P (r.adopt dir b) xs)
    {ds : List Deed} {r : Room} (c : Course name ds r) : P r (log ds) := by
  induction c with
  | start => exact start
  | act c s sane a call birth ih =>
    rename_i ds r
    have step {f g : Focus} {t u : Turn} (m : Move f t g u) (sound : Sound f t.room)
        (h : P t.room (t.trace ++ log ds)) : P u.room (u.trace ++ log ds) := by
      rcases m.tells sound with tells | ⟨dir, b, fresh, _, rfl⟩
      · exact told tells h
      · exact adopt dir fresh h
    have spare {u : Turn} (hs : Spares { room := r } u) (h : P r ([] ++ log ds)) :
        P u.room (u.trace ++ log ds) := by
      have quiet : Quiet { room := r } u :=
        .of_room hs.children (by rw [hs.display]) ⟨[], hs.trace, nofun⟩
      exact told quiet.told h
    obtain ⟨f, _, hf⟩ := c.sound.act_yields (P := fun _ t => P t.room (t.trace ++ log ds)) sane
      (c.fits call birth) step spare ih
    exact hf

theorem Course.aired {name : SessionName} {ds : List Deed} {r : Room} (c : Course name ds r) :
    Aired r (log ds) :=
  c.tells ⟨fun _ => ⟨nofun, fun _ => ⟨rfl, rfl, rfl⟩⟩, rfl⟩ (fun told h => told.aired h)
    fun dir _ fresh h => h.adopt dir fresh

end Session

end ToolHost

import Mathlib
import ToolHost.Proofs.Session.Move

/-!
# The places of calls

Every call that waits has an id of its own. It waits at the latch or for its line to be taken, and
a line waits for nothing else. This holds after every small step, together with what is known of
the call that the step is about.
-/
namespace ToolHost.Session

/-! ## What is done to the list of calls -/

/-- The calls after one of them, if any, was woken. -/
def wakeHead (cs : List Caller) : Option CallId → List Caller
  | none => cs
  | some id => cs.map fun c => if c.id = id then { c with wake := .woken } else c

theorem map_id_wakeHead (cs : List Caller) (id : Option CallId) :
    (wakeHead cs id).map (·.id) = cs.map (·.id) := by
  cases id with
  | none => rfl
  | some i =>
    simp only [wakeHead, List.map_map]
    apply List.map_congr_left
    intro c _
    by_cases h : c.id = i <;> simp [h]

section Invitation

variable (t : Turn) (n : Nat) (l : Latch × Option CallId)

theorem Turn.room_invite : (t.invite n l).room =
    { t.room.setLatch n l.1 with callers := wakeHead t.room.callers l.2 } := by
  unfold invite
  cases l.2 <;> rfl

theorem Turn.trace_invite : (t.invite n l).trace = t.trace := by
  unfold invite
  cases l.2 <;> rfl

theorem Turn.returned_invite : (t.invite n l).returned = t.returned := by
  unfold invite
  cases l.2 <;> rfl

theorem Turn.name_invite : (t.invite n l).room.name = t.room.name := by
  rw [room_invite]
  rfl

theorem Turn.latches_invite : (t.invite n l).room.latches = (t.room.setLatch n l.1).latches := by
  rw [room_invite]

theorem Turn.latch_invite : (t.invite n l).room.latch = t.room.latch := by
  rw [room_invite]
  rfl

theorem Turn.users_invite : (t.invite n l).room.users = t.room.users := by
  rw [room_invite]
  rfl

theorem Turn.recorded_invite : (t.invite n l).room.recorded = t.room.recorded := by
  rw [room_invite]
  rfl

theorem Turn.children_invite : (t.invite n l).room.children = t.room.children := by
  rw [room_invite]
  rfl

theorem Turn.callers_invite : (t.invite n l).room.callers = wakeHead t.room.callers l.2 := by
  rw [room_invite]

end Invitation

section Effects

variable (t : Turn) (v : Visit)

theorem Room.places_append (r : Room) (c : Caller) :
    ({ r with callers := r.callers ++ [c] } : Room).places = r.places ++ [c.place] := by
  simp [places]

@[simp] theorem Turn.places_take : (t.take v).room.places = t.room.places := rfl

@[simp] theorem Turn.places_quit : (t.quit v).room.places = t.room.places := rfl

@[simp] theorem Turn.places_unpark (id : CallId) :
    (t.unpark id).room.places = t.room.places.filter (·.id != id) := by
  simp only [unpark, Room.places, List.filter_map]
  congr 1

@[simp] theorem Turn.places_wait :
    (t.wait v).room.places = t.room.places ++ [⟨v.id, v.request, some v.latch, .queued, .asleep⟩] :=
  Room.places_append _ _

@[simp] theorem Turn.places_parkIn (phase : Phase) (wake : Wake) :
    (t.parkIn v phase wake).room.places =
      t.room.places ++ [⟨v.id, v.request, some v.latch, phase, .asleep⟩] :=
  Room.places_append _ _

@[simp] theorem Turn.places_invite (n : Nat) (l : Latch × Option CallId) :
    (t.invite n l).room.places = t.room.places := by
  unfold Room.places
  rw [Turn.callers_invite]
  cases l.2 with
  | none => rfl
  | some id =>
    simp only [wakeHead, List.map_map]
    apply List.map_congr_left
    intro c _
    by_cases h : c.id = id <;> simp [h, Caller.place]

@[simp] theorem Turn.places_release : (t.release v).room.places = t.room.places :=
  places_invite _ _ _

theorem Room.place_mem {r : Room} {c : Caller} (h : c ∈ r.callers) : c.place ∈ r.places :=
  List.mem_map_of_mem h

end Effects

/-! ## The invariant -/

/-- The id of the call that a step is about, as long as it is under way. -/
def Focus.self? : Focus → Option CallId
  | .calling id _ | .through id _ _ | .sent id _ => some id
  | .before v | .inside v _ | .behind v _ => some v.id
  | .idle | .closed _ _ => none

/-- What the call under way asked for fits the place where it stands. -/
def Focus.Suits : Focus → Prop
  | .inside v (.holding _) | .inside v (.clearing _) | .inside v .vacant => v.request.isLine = false
  | .inside v (.leaving none) | .behind v none => v.request.isLine
  | .through _ request none => request.isLine
  | _ => True

/-- What a call that waits asked for fits the place where it waits. -/
structure Caller.Suits (c : Caller) : Prop where
  latch : c.latch = none ↔ c.phase = .draining
  line : c.request.isLine → c.phase = .queued ∨ c.phase = .draining
  draining : c.phase = .draining → c.request.isLine
  spawning : ∀ argv, c.phase = .spawning argv → c.request.launches

structure Placed (f : Focus) (r : Room) : Prop where
  nodup : r.ids.Nodup
  self : ∀ id, f.self? = some id → id ∉ r.ids
  focus : f.Suits
  callers : ∀ c ∈ r.places, c.Suits

namespace Placed

variable {f g : Focus} {r q : Room}

theorem suits (h : Placed f r) {c : Caller} (mem : c ∈ r.callers) : c.Suits :=
  let k := h.callers c.place (Room.place_mem mem)
  ⟨k.latch, k.line, k.draining, k.spawning⟩

theorem noLineInside (h : Placed f r) : r.NoLineInside := fun _ hc => (h.suits hc).line

theorem onlyLaunches (h : Placed f r) : r.OnlyLaunches := fun _ hc => (h.suits hc).spawning

/-- No call changes its place. -/
theorem keep (h : Placed f r) (places : q.places = r.places) (focus : g.Suits)
    (self : g.self? = f.self? ∨ g.self? = none) : Placed g q where
  nodup := by rw [Room.ids_eq, places, ← Room.ids_eq]; exact h.nodup
  self id hid := by
    rw [Room.ids_eq, places, ← Room.ids_eq]
    rcases self with e | e
    · exact h.self id (e ▸ hid)
    · rw [e] at hid
      cases hid
  focus := focus
  callers := places ▸ h.callers

/-- A call goes on. -/
theorem remove (h : Placed f r) {id : CallId} (places : q.places = r.places.filter (·.id != id))
    (focus : g.Suits) (self : g.self? = some id ∨ g.self? = none) : Placed g q where
  nodup := by
    rw [Room.ids_eq, places]
    have hn := h.nodup
    rw [Room.ids_eq] at hn
    exact (List.filter_sublist.map _).nodup hn
  self i hi := by
    rw [Room.ids_eq, places]
    rcases self with e | e
    · rw [e] at hi
      cases hi
      simp
    · rw [e] at hi
      cases hi
  focus := focus
  callers c hc := by
    rw [places] at hc
    exact h.callers c (List.mem_filter.mp hc).1

/-- The call under way waits. -/
theorem add (h : Placed f r) {c : Caller} (places : q.places = r.places ++ [c])
    (self : f.self? = some c.id) (suits : c.Suits) (focus : g.Suits) (gone : g.self? = none) :
    Placed g q where
  nodup := by
    rw [Room.ids_eq, places, List.map_append, List.nodup_append, ← Room.ids_eq]
    refine ⟨h.nodup, by simp, ?_⟩
    intro a ha b hb e
    have hb : b = c.id := by simpa using hb
    exact h.self c.id self (by rw [← hb, ← e]; exact ha)
  self id hid := by rw [gone] at hid; cases hid
  focus := focus
  callers d hd := by
    rw [places] at hd
    rcases List.mem_append.mp hd with hd | hd
    · exact h.callers d hd
    · rw [List.mem_singleton.mp hd]
      exact suits

end Placed

/-- A call inside the latch that goes on does what suits its request. -/
theorem Caller.Suits.goesOn {c : Caller} (h : c.Suits) {n : Nat} {s : Stage}
    (hs : c.phase.goesOn? c.wake = some s) : (Focus.inside (c.visit n) s).Suits := by
  have line (hq : c.phase ≠ .queued) (hd : c.phase ≠ .draining) : c.request.isLine = false := by
    by_contra hl
    rcases h.line (eq_true_of_ne_false hl) with e | e
    · exact hq e
    · exact hd e
  have hn (e : Ending) : (Focus.inside (c.visit n) (.leaving (some e))).Suits := trivial
  cases hp : c.phase <;> cases hw : c.wake <;> rw [hp, hw] at hs <;> cases hs <;>
    first
    | exact hn _
    | exact line (by simp [hp]) (by simp [hp])

theorem Focus.Suits.through {v : Visit} {e : Option Ending} (h : (Focus.behind v e).Suits) :
    (Focus.through v.id v.request e).Suits := by
  cases e with
  | none => exact h
  | some _ => trivial

theorem Move.placed {f g : Focus} {t u : Turn} (m : Move f t g u) (h : Placed f t.room)
    (sound : ∀ v e, f = .behind v e → ¬ t.room.Lacks) : Placed g u.room := by
  cases m with
  | drift hd _ => exact h.keep hd.places h.focus (.inl rfl)
  | approach _ => exact h.keep rfl trivial (.inl rfl)
  | enter _ => exact h.keep rfl trivial (.inl rfl)
  | queue _ =>
    refine h.add (Turn.places_wait _ _) rfl ⟨?_, ?_, ?_, ?_⟩ trivial rfl
    · simp
    · exact fun _ => .inl rfl
    · simp
    · simp
  | letIn mem latch phase wake => exact h.remove (by simp; rfl) trivial (.inl rfl)
  | retreat mem latch phase wake eq =>
    subst eq
    refine h.remove (by split <;> simp <;> rfl) trivial (.inl rfl)
  | resume mem latch goesOn awake =>
    exact h.remove (Turn.places_unpark _ _) ((h.suits mem).goesOn goesOn) (.inl rfl)
  | pass line => exact h.keep rfl line (.inl rfl)
  | find request recorded live => exact h.keep rfl trivial (.inl rfl)
  | miss line recorded => exact h.keep rfl line (.inl rfl)
  | pop line recorded => exact h.keep rfl line (.inl rfl)
  | reap hr => exact h.keep rfl h.focus (.inl rfl)
  | clear => exact h.keep rfl h.focus (.inl rfl)
  | park stage asleep =>
    rename_i v s phase wake
    refine h.add (Turn.places_parkIn _ _ _ _) rfl ⟨?_, ?_, ?_, ?_⟩ trivial rfl
    · cases phase <;> simp_all [Phase.stage?]
    · intro hl
      have hf := h.focus
      cases phase <;> simp_all [Phase.stage?, Focus.Suits] <;> subst stage <;> simp_all
    · cases phase <;> simp_all [Phase.stage?]
    · rintro argv rfl
      rcases asleep with ⟨_, ne⟩ | ⟨_, _, launches⟩
      · exact absurd (Option.some.inj stage).symm ne
      · exact launches
  | giveUp he => exact h.keep rfl trivial (.inl rfl)
  | adopt dir b fresh => exact h.keep rfl trivial (.inl rfl)
  | release =>
    rename_i v e
    refine h.keep (Turn.places_release _ _) ?_ (.inl rfl)
    cases e with
    | none => exact h.focus
    | some e => trivial
  | depart users more => exact h.keep rfl h.focus.through (.inl rfl)
  | departLast users recorded => exact h.keep rfl h.focus.through (.inl rfl)
  | dropLatch users recorded latch => exact h.keep rfl h.focus.through (.inl rfl)
  | stumble lacks => exact absurd lacks (sound _ _ rfl)
  | direct hn => exact h.keep rfl rfl (.inl rfl)
  | refuse hs => exact h.keep rfl trivial (.inr rfl)
  | write live input => exact h.keep rfl trivial (.inl rfl)
  | block =>
    refine h.add (Room.places_append _ _) rfl ⟨?_, fun _ => .inr rfl, fun _ => rfl, ?_⟩ trivial rfl
    · simp [Caller.place]
    · simp [Caller.place]
  | answer he => exact h.keep rfl trivial (.inr rfl)
  | finish => exact h.keep rfl trivial (.inr rfl)
  | drain mem phase he => exact h.remove (Turn.places_unpark _ _) trivial (.inr rfl)
  | forsake mem latch => exact h.remove (Turn.places_unpark _ _) trivial (.inr rfl)

/-- A new call begins. -/
theorem Placed.call {r : Room} (h : Placed .idle r) {id : CallId} (fresh : id ∉ r.ids)
    (request : Request) : Placed (.calling id request) r :=
  ⟨h.nodup, fun _ hi => by cases hi; exact fresh, trivial, h.callers⟩

theorem Placed.atRest {f : Focus} {r : Room} {i : Option CallId} (h : Placed f r) (o : f.IsOver i) :
    Placed .idle r := by
  cases f with
  | idle => exact h
  | closed _ _ => exact h.keep rfl trivial (.inl rfl)
  | _ => cases o

/-! ## Giving up -/

/-- What is left as it is when a call is told to give up. -/
structure Spares (t u : Turn) : Prop where
  name : u.room.name = t.room.name
  numbers : u.room.latches.map (·.1) = t.room.latches.map (·.1)
  latch : u.room.latch = t.room.latch
  users : u.room.users = t.room.users
  recorded : u.room.recorded = t.room.recorded
  children : u.room.children = t.room.children
  display : u.room.display = t.room.display
  places : u.room.places = t.room.places
  trace : u.trace = t.trace
  returned : u.returned = t.returned

/-- A call is told something and keeps its place. -/
theorem Room.places_setCaller {r : Room} (nodup : r.ids.Nodup) {c : Caller} (mem : c ∈ r.callers)
    (w : Wake) : (r.setCaller { c with wake := w }).places = r.places := by
  unfold places setCaller
  rw [List.map_map]
  apply List.map_congr_left
  intro d hd
  by_cases he : d.id = c.id
  · have : d = c := List.inj_on_of_nodup_map nodup hd mem he
    simp [this, Caller.place]
  · simp [he]

theorem Spares.tell (t : Turn) (nodup : t.room.ids.Nodup) {c : Caller} (mem : c ∈ t.room.callers)
    (w : Wake) : Spares t { t with room := t.room.setCaller { c with wake := w } } where
  name := rfl
  numbers := rfl
  latch := rfl
  users := rfl
  recorded := rfl
  children := rfl
  display := rfl
  places := Room.places_setCaller nodup mem w
  trace := rfl
  returned := rfl

theorem cancel_spares (t : Turn) (id : CallId) (nodup : t.room.ids.Nodup) :
    Spares t (t.cancel id) := by
  have still : Spares t t := ⟨rfl, rfl, rfl, rfl, rfl, rfl, rfl, rfl, rfl, rfl⟩
  unfold Turn.cancel
  split
  · exact still
  · rename_i c hc
    have told := Spares.tell t nodup (Room.mem_of_caller? hc) .interrupted
    split
    · exact still
    · exact { told with numbers := (Room.map_fst_setLatch _ _ _).trans told.numbers }
    · exact { told with }
    · exact told

theorem Spares.placed {f : Focus} {t u : Turn} (s : Spares t u) (h : Placed f t.room) :
    Placed f u.room := h.keep s.places h.focus (.inl rfl)

end ToolHost.Session

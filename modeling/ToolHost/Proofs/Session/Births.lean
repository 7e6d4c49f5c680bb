import Mathlib
import ToolHost.Proofs.Session.Queue

/-!
# Where processes come from

A process comes into being with the action that launches it and at no other time, so the numbers
of the processes of a name are the ones that its actions have brought along. Nothing else that a
call does touches the display.
-/
namespace ToolHost.Session

/-- No process came into being, and the display is as it was. -/
structure Room.Stays (r q : Room) : Prop where
  pids : q.pids = r.pids
  display : q.display = r.display

namespace Room.Stays

variable {r q p : Room}

theorem refl (r : Room) : r.Stays r := ⟨rfl, rfl⟩

theorem trans (h : r.Stays q) (k : q.Stays p) : r.Stays p :=
  ⟨k.pids.trans h.pids, k.display.trans h.display⟩

theorem setChild (r : Room) (c : Child) : r.Stays (r.setChild c) := ⟨r.pids_setChild c, rfl⟩

end Room.Stays

namespace Turn

variable (t : Turn) (s : Setting) (v : Visit)

theorem stays_invite (n : Nat) (l : Latch × Option CallId) :
    t.room.Stays (t.invite n l).room := by
  refine ⟨Room.pids_congr (t.children_invite n l), ?_⟩
  unfold invite
  simp only
  split <;> rfl

theorem stays_depart {next : Turn → Turn} (h : ∀ u : Turn, u.room.Stays (next u).room) :
    t.room.Stays (t.depart v.id next).room := by
  unfold depart
  simp only
  repeat' split
  all_goals first | exact ⟨rfl, rfl⟩ | exact ⟨(h _).pids, (h _).display⟩

theorem stays_leave {next : Turn → Turn} (h : ∀ u : Turn, u.room.Stays (next u).room) :
    t.room.Stays (t.leave v next).room := by
  refine .trans ?_ (stays_depart (t.release v) v h)
  exact stays_invite (t.say (.left t.room.name v.id t.room.recorded)) _ _

theorem stays_conclude (e : Ending) : t.room.Stays (t.conclude v e).room :=
  stays_leave t v fun _ => .refl _

theorem stays_launch : t.room.Stays (t.launch s v).room := by
  unfold launch
  split
  · exact stays_conclude t v _
  · exact ⟨rfl, rfl⟩

theorem stays_proceed : t.room.Stays (t.proceed s v).room := by
  unfold proceed
  split
  · exact stays_launch t s v
  · exact stays_launch t s v
  · exact stays_conclude t v _
  · exact stays_conclude t v _

theorem stays_rouse (c : Child) : t.room.Stays (t.rouse c).room := by
  unfold rouse
  simp only
  split <;> exact .setChild _ _

theorem stays_endChild (c : Child) (code : Int) : t.room.Stays (t.endChild c code).room :=
  (stays_rouse t _).trans ⟨rfl, rfl⟩

theorem stays_closeInput (pid : Pid) : t.room.Stays (t.closeInput pid).room := by
  unfold closeInput
  simp only
  split
  · exact .setChild _ _
  · exact .refl _

theorem stays_stopped (pid : Pid) : t.room.Stays (t.stopped s v pid).room :=
  (stays_closeInput t pid).trans
    (stays_proceed ((t.closeInput pid).say (.stopped t.room.name pid)) s v)

theorem stays_join (pid : Pid) : t.room.Stays (t.join s v pid).room := by
  unfold join
  simp only
  split
  · exact stays_stopped t s v pid
  · have cancelled := Room.Stays.setChild t.room (t.child pid).cancelRelay.1
    split <;> exact ⟨cancelled.pids, rfl⟩

theorem stays_kill (pid : Pid) : t.room.Stays (t.kill s v pid).room := by
  unfold kill
  simp only
  split
  · exact stays_join t s v pid
  · split
    · exact (stays_endChild (t.say _) _ _).trans (stays_join _ s v pid)
    · exact (stays_endChild (t.say _) _ _).trans (stays_join _ s v pid)
    · exact ⟨rfl, rfl⟩

theorem stays_pop (pid : Pid) : t.room.Stays (t.pop pid).room := ⟨t.pids_pop pid, rfl⟩

theorem stays_stop (isReplaced : Bool) : t.room.Stays (t.stop s v isReplaced).room := by
  unfold stop
  split
  · exact stays_proceed t s v
  · rename_i pid _
    have closed := (stays_pop t pid).trans (stays_closeInput (t.pop pid) pid)
    simp only
    split
    · split
      · exact closed.trans (stays_kill _ s v pid)
      · exact closed.trans ⟨rfl, rfl⟩
    · exact (stays_pop t pid).trans (stays_kill _ s v pid)

theorem stays_start : t.room.Stays (t.start s v).room := by
  unfold start
  split
  · exact stays_launch t s v
  · split
    · exact stays_conclude (t.say _) v _
    · exact stays_stop t s v false

theorem stays_deliver (id : CallId) (line : String) :
    t.room.Stays (t.deliver id line).room := by
  unfold deliver
  simp only
  repeat' split
  all_goals exact ⟨rfl, rfl⟩

theorem stays_enter : t.room.Stays (t.enter s v).room := by
  have taken : t.room.Stays (t.take v).room := ⟨rfl, rfl⟩
  unfold enter
  simp only
  split
  · exact taken.trans (stays_start _ s v)
  · exact taken.trans (stays_stop _ s v false)
  · exact taken.trans (stays_stop _ s v true)
  · exact taken.trans (stays_leave _ v fun u => u.stays_deliver v.id _)

theorem stays_approach (id : CallId) (request : Request) :
    t.room.Stays (t.approach s id request).room := by
  have knocked : t.room.Stays t.room.knock := ⟨rfl, rfl⟩
  unfold approach
  simp only
  split
  · exact knocked.trans (stays_enter (Turn.say { t with room := t.room.knock } _) s _)
  · exact ⟨rfl, rfl⟩

theorem stays_begin (id : CallId) (request : Request) :
    t.room.Stays (t.begin s id request).room := by
  unfold begin
  split
  · repeat' split
    all_goals first | exact t.stays_approach s id _ | exact t.stays_deliver id _
  · exact t.stays_approach s id _

theorem stays_unqueue (wake : Wake) : t.room.Stays (t.unqueue s v wake).room := by
  have left : t.room.Stays (t.quit v).room := ⟨rfl, rfl⟩
  unfold unqueue
  simp only
  split
  · have ends : ∀ u : Turn, u.room.Stays (u.finish v.id .abandoned).room := fun _ => .refl _
    refine .trans ?_ (stays_depart _ v ends)
    split
    · exact left
    · exact left.trans (stays_invite _ _ _)
  · exact left.trans (stays_enter _ s v)

theorem stays_advance (phase : Phase) (wake : Wake) :
    t.room.Stays (t.advance s v phase wake).room := by
  unfold advance
  split
  · exact t.stays_unqueue s v wake
  · exact stays_stopped t s v _
  · exact stays_conclude t v _
  · refine .trans ?_ (stays_kill _ s v _)
    split <;> exact .refl _
  · exact stays_join t s v _
  · exact stays_conclude t v _

theorem stays_resume (id : CallId) : t.room.Stays (t.resume s id).room := by
  have unparked : t.room.Stays (t.unpark id).room := ⟨rfl, rfl⟩
  unfold resume
  split
  · exact .refl _
  · split
    · exact .refl _
    · exact .refl _
    · exact unparked
    · exact unparked.trans ((t.unpark id).stays_advance s _ _ _)

/-- A call that counts at the latch and leaves a process recorded comes to its ending. -/
theorem returned_conclude (users : t.room.users.isSome) (recorded : t.room.recorded.isSome)
    (e : Ending) : (t.conclude v e).returned = some (v.id, e) := by
  have counts : (t.release v).room.users = t.room.users := users_invite _ _ _
  have records : (t.release v).room.recorded = t.room.recorded := recorded_invite _ _ _
  obtain ⟨n, hn⟩ := Option.isSome_iff_exists.mp users
  unfold conclude leave depart
  simp only [counts, records, hn, recorded, if_true]
  split <;> rfl

theorem returned_record (users : t.room.users.isSome) (dir : Machine.Path) (argv : List String)
    (b : Birth) : (t.record s v dir argv b).returned =
      some (v.id, .session ((t.room.adopt dir b).session b.pid)) := by
  let u : Turn := { t with room := t.room.adopt dir b }.say
    (.spawned true b.pid argv dir.text s.extra)
  exact returned_conclude ((u.ready (.relay b.pid)).say (.started u.room.name b.pid dir.text)) v
    users rfl _

/-- A call that waited for a process to be created brings it into being, and then it ends with its
session if it counts at the latch; or it brings none. -/
theorem stays_launched (id : CallId) (outcome : Except SpawnFault Birth) :
    t.room.Stays (t.launched s id outcome).room ∨
      (∃ b, outcome = .ok b ∧ (t.launched s id outcome).room.pids = t.room.pids ++ [b.pid]) ∧
        ∃ c ∈ t.room.callers, c.latch.isSome ∧ (t.room.users.isSome →
          ∃ w, (t.launched s id outcome).returned = some (id, .session w)) := by
  have unparked : t.room.Stays (t.unpark id).room := ⟨rfl, rfl⟩
  unfold launched
  split
  · rename_i hc
    simp only
    split
    · exact .inl (unparked.trans (stays_conclude _ _ _))
    · exact .inl (unparked.trans (stays_conclude ((t.unpark id).say _) _ _))
    · rename_i b _
      refine .inr ⟨⟨b, rfl, ?_⟩, _, Room.mem_of_caller? hc, rfl, fun users => ?_⟩
      · exact (stays_conclude _ _ _).pids.trans (Room.pids_adopt (t.unpark id).room _ b)
      · exact ⟨_, returned_record (t.unpark id) s _ users _ _ b⟩
  · exact .inl (.refl _)

theorem stays_wake (id : CallId) : t.room.Stays (t.wake id).room := by
  unfold wake
  repeat' split
  all_goals exact ⟨rfl, rfl⟩

theorem stays_cancel (id : CallId) : t.room.Stays (t.cancel id).room := by
  unfold cancel
  repeat' split
  all_goals exact ⟨rfl, rfl⟩

theorem stays_drained (id : CallId) (isBroken : Bool) :
    t.room.Stays (t.drained id isBroken).room := by
  unfold drained
  split
  · simp only
    split <;> exact ⟨rfl, rfl⟩
  · exact .refl _

end Turn

/-- The processes of a room after an action are those before it, and the one that the action has
launched if it has. -/
theorem Room.pids_act (r : Room) (s : Setting) (a : Action) :
    (r.act s a).room.pids = r.pids ∨
      ∃ b, a.birth? = some b ∧ (r.act s a).room.pids = r.pids ++ [b.pid] := by
  cases a with
  | begin id request => exact .inl (Turn.stays_begin { room := r } s id request).pids
  | resume id => exact .inl (Turn.stays_resume { room := r } s id).pids
  | launched id outcome =>
    rcases Turn.stays_launched { room := r } s id outcome with same | ⟨⟨b, rfl, more⟩, _⟩
    · exact .inl same.pids
    · exact .inr ⟨b, rfl, more⟩
  | wake id => exact .inl (Turn.stays_wake { room := r } id).pids
  | relay pid => exact .inl (Side.relay _ pid).pids
  | exit pid code => exact .inl (Side.exit _ pid code).pids
  | output pid portion => exact .inl (Side.output _ pid portion).pids
  | closeOutput pid => exact .inl (Side.closeOutput _ pid).pids
  | drained id isBroken => exact .inl (Turn.stays_drained { room := r } id isBroken).pids
  | cancel id => exact .inl (Turn.stays_cancel { room := r } id).pids
  | clear => exact .inl (Side.clear _).pids
  | openDisplay => exact .inl (Side.openDisplay _).pids

theorem Room.mem_pids_act {r : Room} {s : Setting} {a : Action} {pid : Pid}
    (h : pid ∈ (r.act s a).room.pids) : pid ∈ r.pids ∨ ∃ b, a.birth? = some b ∧ pid = b.pid := by
  rcases r.pids_act s a with same | ⟨b, hb, more⟩
  · exact .inl (same ▸ h)
  · rw [more, List.mem_append, List.mem_singleton] at h
    exact h.imp id fun e => ⟨b, hb, e⟩

/-- The call that an action is about. -/
def Action.caller? : Action → Option CallId
  | .begin id _ | .resume id | .launched id _ | .wake id | .drained id _ | .cancel id => some id
  | _ => none

/-- What is done with a call leaves the display as it is, unless the call gets its session. -/
theorem Sound.display_act {r : Room} (h : Sound .idle r) (s : Setting) {a : Action} {id : CallId}
    (about : a.caller? = some id) :
    (r.act s a).room.display = r.display ∨ ∃ v, (r.act s a).returned = some (id, .session v) := by
  cases a with
  | begin i request => exact .inl (Turn.stays_begin { room := r } s i request).display
  | resume i => exact .inl (Turn.stays_resume { room := r } s i).display
  | launched i outcome =>
    cases about
    rcases Turn.stays_launched { room := r } s id outcome with same | ⟨-, c, mem, latch, returned⟩
    · exact .inl same.display
    · refine .inr (returned ?_)
      have counts : r.atLatch ≠ 0 :=
        (List.countP_pos_iff.mpr ⟨c.place, Room.place_mem mem, latch⟩).ne'
      change r.users.isSome
      rw [h.counted.users, isSome_tally]
      omega
  | wake i => exact .inl (Turn.stays_wake { room := r } i).display
  | drained i isBroken => exact .inl (Turn.stays_drained { room := r } i isBroken).display
  | cancel i => exact .inl (Turn.stays_cancel { room := r } i).display
  | _ => cases about

end ToolHost.Session

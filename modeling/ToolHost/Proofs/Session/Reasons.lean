import Mathlib
import ToolHost.Proofs.Session.Replies

/-!
# Why calls fail

A call that is to launch a process fails for want of a command, because the process that it waits
for could not be created, or because it was told to give up. Nothing else that is done in a room
makes it fail.
-/
namespace ToolHost.Session

/-- The directory in which a call launches a process. -/
def Request.dir (q : Request) : Machine.Path :=
  match q with
  | .start d | .restart d => d
  | _ => ⟨.here, []⟩

/-- The process that a call waits for: its command line and its directory. -/
def Room.attempt? (r : Room) (id : CallId) : Option (List String × Machine.Path) :=
  match r.caller? id with
  | some ⟨_, request, some _, .spawning argv, _⟩ => some (argv, request.dir)
  | _ => none

/-- The call that has ended, if one has, has come to an ending of a kind. -/
def Turn.Ends (K : Ending → Prop) (t : Turn) : Prop := ∀ id e, t.returned = some (id, e) → K e

/-- An ending that needs no more of the world than the setting. A call that launches a process
ends with a session then, or fails for want of a command, unless it was told to give up. -/
def Ending.Grounded (s : Setting) (q : Request) (gaveUp : Prop) : Ending → Prop
  | .session _ => True
  | .done => q.launches = false
  | .failed t => q.launches → t ≠ .breakdown .missingKey → s.command = .error t
  | .abandoned => q.launches → gaveUp

namespace Turn

variable {K : Ending → Prop} {s : Setting} {q : Request} {gaveUp : Prop} {t u : Turn} {v : Visit}

theorem returned_rouse (t : Turn) (c : Child) : (t.rouse c).returned = t.returned := by
  unfold rouse
  simp only
  split <;> rfl

theorem returned_closeInput (t : Turn) (pid : Pid) : (t.closeInput pid).returned = t.returned := by
  unfold closeInput
  simp only
  split <;> rfl

namespace Ends

theorem starts (K : Ending → Prop) (r : Room) : ({ room := r } : Turn).Ends K :=
  fun _ _ he => nomatch he

theorem keep (h : t.Ends K) (returned : u.returned = t.returned) : u.Ends K :=
  fun id e he => h id e (returned ▸ he)

theorem finish (t : Turn) (id : CallId) {e : Ending} (he : K e) : (t.finish id e).Ends K := by
  rintro i x ⟨⟩
  exact he

/-! A call that goes away from the latch may miss its key there. -/

theorem depart (h : t.Ends K) (stumbles : K (.failed (.breakdown .missingKey))) (id : CallId)
    {next : Turn → Turn} (goesOn : ∀ u : Turn, u.Ends K → (next u).Ends K) :
    (t.depart id next).Ends K := by
  unfold Turn.depart
  split
  · exact .finish t id stumbles
  · simp only
    repeat' split
    · exact goesOn _ h
    · exact goesOn _ h
    · exact .finish _ id stumbles
    · exact goesOn _ h

theorem leave (h : t.Ends K) (stumbles : K (.failed (.breakdown .missingKey))) (v : Visit)
    {next : Turn → Turn} (goesOn : ∀ u : Turn, u.Ends K → (next u).Ends K) :
    (t.leave v next).Ends K := by
  have released : (t.release v).Ends K := h.keep (returned_invite _ _ _)
  exact released.depart stumbles v.id goesOn

theorem conclude (h : t.Ends K) (stumbles : K (.failed (.breakdown .missingKey))) (v : Visit)
    {e : Ending} (he : K e) : (t.conclude v e).Ends K :=
  h.leave stumbles v fun u _ => .finish u v.id he

end Ends

/-! ## Calls that go on in a setting -/

theorem grounded_missingKey (s : Setting) (q : Request) (gaveUp : Prop) :
    (Ending.failed (.breakdown .missingKey)).Grounded s q gaveUp := fun _ ne => absurd rfl ne

/-- The call that has ended, if one has, is grounded in the setting. -/
abbrev Grounded (s : Setting) (q : Request) (gaveUp : Prop) (t : Turn) : Prop :=
  t.Ends (·.Grounded s q gaveUp)

namespace Grounded

theorem conclude (h : t.Grounded s q gaveUp) (v : Visit) {e : Ending}
    (he : e.Grounded s q gaveUp) : (t.conclude v e).Grounded s q gaveUp :=
  Ends.conclude h (grounded_missingKey s q gaveUp) v he

theorem launch (h : t.Grounded s q gaveUp) (v : Visit) :
    (t.launch s v).Grounded s q gaveUp := by
  unfold Turn.launch
  split
  · rename_i e command
    exact conclude h v fun _ _ => command
  · exact h

theorem proceed (h : t.Grounded s v.request gaveUp) :
    (t.proceed s v).Grounded s v.request gaveUp := by
  unfold Turn.proceed
  split
  · exact launch h v
  · exact launch h v
  · rename_i hq
    exact conclude h v (congrArg Request.launches hq)
  · rename_i hq
    exact conclude h v (congrArg Request.launches hq)

theorem stopped (h : t.Grounded s v.request gaveUp) (pid : Pid) :
    (t.stopped s v pid).Grounded s v.request gaveUp := by
  have closed : ((t.closeInput pid).say (.stopped t.room.name pid)).Grounded s v.request gaveUp :=
    Ends.keep h (returned_closeInput t pid)
  exact proceed closed

theorem join (h : t.Grounded s v.request gaveUp) (pid : Pid) :
    (t.join s v pid).Grounded s v.request gaveUp := by
  unfold Turn.join
  simp only
  split
  · exact stopped h pid
  · split <;> exact h

theorem kill (h : t.Grounded s v.request gaveUp) (pid : Pid) :
    (t.kill s v pid).Grounded s v.request gaveUp := by
  have ended (x : Happening) (code : Int) :
      ((t.say x).endChild (t.child pid) code).Grounded s v.request gaveUp :=
    Ends.keep h (returned_rouse (t.say x) _)
  unfold Turn.kill
  simp only
  split
  · exact join h pid
  · split
    · exact join (ended _ _) pid
    · exact join (ended _ _) pid
    · exact h

theorem stop (h : t.Grounded s v.request gaveUp) (isReplaced : Bool) :
    (t.stop s v isReplaced).Grounded s v.request gaveUp := by
  unfold Turn.stop
  split
  · exact proceed h
  · rename_i pid _
    have popped : (t.pop pid).Grounded s v.request gaveUp := h
    have closed := Ends.keep popped (returned_closeInput (t.pop pid) pid)
    simp only
    split
    · split
      · exact kill closed pid
      · exact closed
    · exact kill popped pid

theorem start (h : t.Grounded s v.request gaveUp) :
    (t.start s v).Grounded s v.request gaveUp := by
  unfold Turn.start
  split
  · exact launch h v
  · split
    · exact conclude (t := t.say _) h v trivial
    · exact stop h false

theorem deliver (h : t.Grounded s q gaveUp) (line : q.launches = false) (id : CallId)
    (text : String) : (t.deliver id text).Grounded s q gaveUp := by
  have refuses (u : Turn) (x : Trouble) : (u.finish id (.failed x)).Grounded s q gaveUp :=
    .finish u id fun launches => absurd launches (by simp [line])
  unfold Turn.deliver
  simp only
  split
  · exact refuses _ _
  · split
    · exact refuses _ _
    · split
      · exact .finish _ id line
      · exact refuses _ _
      · exact h

theorem enter (h : t.Grounded s v.request gaveUp) :
    (t.enter s v).Grounded s v.request gaveUp := by
  have taken : (t.take v).Grounded s v.request gaveUp := h
  unfold Turn.enter
  simp only
  split
  · exact start taken
  · exact stop taken false
  · exact stop taken true
  · rename_i line hq
    exact Ends.leave taken (grounded_missingKey s _ gaveUp) v fun u hu =>
      deliver hu (congrArg Request.launches hq) v.id line

theorem approach (h : t.Grounded s q gaveUp) (id : CallId) :
    (t.approach s id q).Grounded s q gaveUp := by
  unfold Turn.approach
  simp only
  split
  · exact enter (v := ⟨id, q, _⟩) h
  · exact h

theorem begin (h : t.Grounded s q gaveUp) (id : CallId) :
    (t.begin s id q).Grounded s q gaveUp := by
  unfold Turn.begin
  split
  · repeat' split
    all_goals first | exact approach h id | exact deliver h rfl id _
  · exact approach h id

theorem unqueue (h : t.Grounded s v.request gaveUp) {wake : Wake}
    (told : wake = .interrupted → gaveUp) :
    (t.unqueue s v wake).Grounded s v.request gaveUp := by
  have left : (t.quit v).Grounded s v.request gaveUp := h
  unfold Turn.unqueue
  simp only
  split
  · refine Ends.depart ?_ (grounded_missingKey s _ gaveUp) v.id fun u _ =>
      .finish u v.id fun _ => told rfl
    split
    · exact left
    · exact left.keep (returned_invite _ _ _)
  · exact enter left

/-- A call inside the latch goes on. It does so neither while its process is being created nor
with its line under way. -/
theorem advance (h : t.Grounded s v.request gaveUp) {phase : Phase} {wake : Wake}
    (told : wake = .interrupted → gaveUp)
    (done : wake ≠ .interrupted → (∃ argv, phase = .spawning argv) ∨ phase = .draining →
      v.request.launches = false) :
    (t.advance s v phase wake).Grounded s v.request gaveUp := by
  unfold Turn.advance
  split
  · exact unqueue h told
  · exact stopped h _
  · exact conclude h v fun _ => told rfl
  · refine kill ?_ _
    split <;> exact h
  · exact join h _
  · rename_i queued joining grace reaping interrupted
    refine conclude h v (done interrupted ?_)
    cases phase with
    | queued => exact (queued rfl).elim
    | joining pid => exact (joining pid rfl).elim
    | grace pid => exact (grace pid rfl).elim
    | reaping pid => exact (reaping pid rfl).elim
    | spawning argv => exact .inl ⟨argv, rfl⟩
    | draining => exact .inr rfl

/-- A call that goes on is grounded in the setting, unless it was told to give up. -/
theorem resume {r : Room} (placed : Placed .idle r) {id : CallId} {c : Caller}
    (waits : r.caller? id = some c) :
    (({ room := r } : Turn).resume s id).Grounded s c.request (c.wake = .interrupted) := by
  have suits := placed.suits (Room.mem_of_caller? waits)
  have line (h : c.phase = .draining) : c.request.launches = false := by
    have hl := suits.draining h
    cases hq : c.request <;> simp_all [Request.isLine, Request.launches]
  have begins : (({ room := r } : Turn).unpark id).Grounded s c.request (c.wake = .interrupted) :=
    Ends.starts _ r
  unfold Turn.resume
  simp only [waits]
  split
  · exact .starts _ r
  · exact .starts _ r
  · rename_i latch _ _
    refine .finish _ id fun launches => ?_
    simp [line (suits.latch.mp latch)] at launches
  · rename_i n _ awake unspawned
    refine advance (v := ⟨id, c.request, n⟩) begins (fun h => h) ?_
    rintro calm (⟨argv, hp⟩ | hp)
    · cases hw : c.wake with
      | asleep => exact absurd hw awake
      | woken => exact absurd hw (unspawned argv hp)
      | interrupted => exact absurd hw calm
    · exact line hp

end Grounded

end Turn

/-! ## What an action does -/

/-- Why a call that launches a process ends as it does. -/
inductive Ending.Due (r : Room) (s : Setting) (a : Action) (id : CallId) : Ending → Prop
  | session (v : View) : Due r s a id (.session v)
  /-- There was no command to launch. -/
  | lacking {t : Trouble} (command : s.command = .error t) : Due r s a id (.failed t)
  /-- The process could not be created. -/
  | refused {argv : List String} {dir : Machine.Path} {fault : SpawnFault}
      (attempt : r.attempt? id = some (argv, dir)) (told : a = .launched id (.error fault)) :
      Due r s a id (.failed (fault.trouble argv dir.text))
  /-- The call was told to give up. -/
  | abandoned {c : Caller} (waits : r.caller? id = some c) (gaveUp : c.wake = .interrupted) :
      Due r s a id .abandoned

variable {r : Room} {s : Setting} {a : Action} {id : CallId} {q : Request} {e : Ending}

theorem Ending.Grounded.due {gaveUp : Prop} (h : e.Grounded s q gaveUp) (launches : q.launches)
    (keyed : e ≠ .failed (.breakdown .missingKey))
    (told : gaveUp → ∃ c, r.caller? id = some c ∧ c.wake = .interrupted) : e.Due r s a id := by
  cases e with
  | session v => exact .session v
  | done => exact absurd launches (by simp [show q.launches = false from h])
  | failed t => exact .lacking (h launches fun ht => keyed (ht ▸ rfl))
  | abandoned =>
    obtain ⟨c, waits, wake⟩ := told (h launches)
    exact .abandoned waits wake

/-- A call whose process was created, or was not, ends with it, unless it was told to give up. -/
theorem Room.due_launched {outcome : Except SpawnFault Birth}
    (returned : (r.act s (.launched id outcome)).returned = some (id, e))
    (keyed : e ≠ .failed (.breakdown .missingKey)) : e.Due r s (.launched id outcome) id := by
  -- All that the call can come to, and the key that it may miss on its way.
  have ends {t : Turn} (v : Visit) {x : Ending} (none : t.returned = none)
      (due : x.Due r s (.launched id outcome) id) (he : (t.conclude v x).returned = some (id, e)) :
      e.Due r s (.launched id outcome) id := by
    have starts : t.Ends fun x => x ≠ .failed (.breakdown .missingKey) →
        x.Due r s (.launched id outcome) id := fun i y hy => by rw [none] at hy; cases hy
    exact starts.conclude (fun ne => absurd rfl ne) v (fun _ => due) id e he keyed
  change (Turn.launched { room := r } s id outcome).returned = some (id, e) at returned
  unfold Turn.launched at returned
  split at returned
  · rename_i hc
    simp only at returned
    split at returned
    · exact ends _ rfl (.abandoned hc rfl) returned
    · refine ends _ rfl (.refused ?_ rfl) returned
      simp only [Room.attempt?, hc]
      rfl
    · exact ends (t := (Turn.ready _ _).say _) _ rfl (.session _) returned
  · cases returned

/-- A call that leaves the latch to end does so, if only for want of a key. -/
theorem Turn.ends_conclude (t : Turn) (v : Visit) (x : Ending) :
    ∃ y, (t.conclude v x).returned = some (v.id, y) := by
  unfold Turn.conclude Turn.leave Turn.depart
  simp only
  repeat' split
  all_goals exact ⟨_, rfl⟩

/-- A call that waits for its process ends as soon as that was created, or was not. -/
theorem Room.ends_launched {p : List String × Machine.Path} (attempt : r.attempt? id = some p)
    (s : Setting) (outcome : Except SpawnFault Birth) :
    ∃ y, (r.act s (.launched id outcome)).returned = some (id, y) := by
  unfold attempt? at attempt
  split at attempt
  · rename_i waits
    change ∃ y, (Turn.launched { room := r } s id outcome).returned = some (id, y)
    unfold Turn.launched
    simp only [waits]
    split
    · exact Turn.ends_conclude _ _ _
    · exact Turn.ends_conclude (Turn.say _ _) _ _
    · exact Turn.ends_conclude (Turn.say _ _) _ _
  · cases attempt

/-- Whoever asked to launch a process ends with a session, or for a reason. -/
theorem Sound.due_of_returned (h : Sound .idle r) (sane : s.Sane) (fits : a.Fits r)
    (returned : (r.act s a).returned = some (id, e))
    (asks : a.call? = some (id, q) ∨ ∃ c ∈ r.callers, c.id = id ∧ c.request = q)
    (launches : q.launches) : e.Due r s a id := by
  have subject := h.subject_of_returned sane fits returned
  have keyed : e ≠ .failed (.breakdown .missingKey) := by
    obtain ⟨f, -, replied⟩ := h.act_replied sane fits
    obtain ⟨p, -, fair⟩ := replied.given id e returned
    rintro rfl
    exact fair rfl
  -- Who waits under the number of the call is the one that asked.
  have asked {c : Caller} (waits : r.caller? id = some c) (other : a.call? = none) :
      c.request = q := by
    rcases asks with call | ⟨d, hd, same, rfl⟩
    · rw [other] at call
      cases call
    · have : c = d := List.inj_on_of_nodup_map h.placed.nodup (Room.mem_of_caller? waits) hd
        ((Room.id_of_caller? waits).trans same.symm)
      rw [this]
  cases a with
  | begin i request =>
    obtain rfl : i = id := Option.some.inj subject
    rcases asks with call | ⟨c, hc, same, -⟩
    · cases call
      have grounded : (({ room := r } : Turn).begin s i q).Grounded s q False :=
        Turn.Grounded.begin (.starts _ r) i
      exact (grounded i e returned).due launches keyed False.elim
    · exact absurd (List.mem_map.mpr ⟨c, hc, same⟩) (fits.call _ rfl)
  | resume i =>
    obtain rfl : i = id := Option.some.inj subject
    cases waits : r.caller? i with
    | none =>
      change (Turn.resume { room := r } s i).returned = _ at returned
      simp [Turn.resume, waits] at returned
    | some c =>
      obtain rfl := asked waits rfl
      exact (Turn.Grounded.resume h.placed waits i e returned).due launches keyed
        fun wake => ⟨c, waits, wake⟩
  | launched i outcome =>
    obtain rfl : i = id := Option.some.inj subject
    exact Room.due_launched returned keyed
  | drained i isBroken =>
    obtain rfl : i = id := Option.some.inj subject
    change (Turn.drained { room := r } i isBroken).returned = _ at returned
    unfold Turn.drained at returned
    split at returned
    · rename_i waits
      obtain rfl := asked waits rfl
      cases launches
    · cases returned
  | _ => cases subject

end ToolHost.Session

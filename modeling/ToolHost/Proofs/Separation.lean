import Mathlib
import ToolHost.Proofs.Run
import ToolHost.Proofs.Session.Births
import ToolHost.Proofs.Session.Trailing

/-!
# Sessions of different names

What happens in the room of one name leaves every other room as it is, and finds there what it
would have found without the others. So two steps in rooms of different names can be taken in
either order, and all that was ever done about one name can be left out of a run without a trace
in what was done about the others.
-/
namespace ToolHost

namespace House

/-- The house with the sessions of another one, and with what has happened there. -/
def withSessions (h k : House) : House :=
  { h with rooms := k.rooms, roster := k.roster, trace := k.trace }

/-- Houses that differ at most in their sessions and in what has happened. -/
def Alike (h k : House) : Prop := k.withSessions h = h

variable {h k : House}

theorem Alike.refl (h : House) : h.Alike h := rfl

theorem Alike.symm (s : h.Alike k) : k.Alike h := by
  rw [Alike] at *
  rw [← s]
  rfl

theorem Alike.trans {l : House} (s : h.Alike k) (t : k.Alike l) : h.Alike l := by
  rw [Alike] at *
  rw [← s, ← t]
  rfl

theorem Alike.setting (s : h.Alike k) : k.setting = h.setting := by
  rw [← show k.withSessions h = h from s]
  rfl

/-- What happens in a room changes nothing but sessions. -/
theorem alike_act (h : House) {a : Action} {name : SessionName} {b : Session.Action}
    (ha : a.session? = some (name, b)) : h.Alike (h.act a).house := by
  rw [h.act_session ha]
  rfl

theorem setting_act (h : House) {a : Action} {name : SessionName} {b : Session.Action}
    (ha : a.session? = some (name, b)) : (h.act a).house.setting = h.setting :=
  (h.alike_act ha).setting

theorem roster_act (h : House) {a : Action} {name : SessionName} {b : Session.Action}
    (ha : a.session? = some (name, b)) : (h.act a).house.roster =
      enroll h.roster name (h.room name).recorded
        ((h.room name).act h.setting b).room.recorded := by
  rw [h.act_session ha]
  rfl

theorem act_withSessions (k h : House) {a : Action} (ha : a.session? = none) :
    ((k.withSessions h).act a).house.Alike (k.act a).house ∧
      ((k.withSessions h).act a).returned = (k.act a).returned := by
  cases a with
  | room name b => cases ha
  | shot b => exact ⟨rfl, rfl⟩
  | begin id call =>
    cases call with
    | session name request => cases ha
    | oneShot artifact dir text => exact ⟨rfl, rfl⟩
    | awaitOneShots => exact ⟨rfl, rfl⟩
    | install target artifactName url =>
      change ((k.withSessions h).beginInstall id target artifactName url).house.Alike
        (k.beginInstall id target artifactName url).house ∧ _
      have host : (k.withSessions h).host = k.host := rfl
      change _ ∧ ((k.withSessions h).beginInstall id target artifactName url).returned =
        (k.beginInstall id target artifactName url).returned
      unfold beginInstall
      rw [host]
      simp only
      split
      · exact ⟨rfl, rfl⟩
      · split
        · exact ⟨rfl, rfl⟩
        · exact ⟨rfl, rfl⟩
        · split
          · exact ⟨rfl, rfl⟩
          · exact ⟨rfl, rfl⟩
  | received id asked outcome refusal =>
    change ((k.withSessions h).receive id asked outcome refusal).house.Alike
      (k.receive id asked outcome refusal).house ∧
      ((k.withSessions h).receive id asked outcome refusal).returned =
        (k.receive id asked outcome refusal).returned
    have installs : (k.withSessions h).installs = k.installs := rfl
    unfold receive
    rw [installs]
    split
    · exact ⟨rfl, rfl⟩
    · exact ⟨rfl, rfl⟩

/-- What is about no session does the same in houses that differ in their sessions only. -/
theorem Alike.act (s : h.Alike k) {a : Action} (ha : a.session? = none) :
    (h.act a).house.Alike (k.act a).house := by
  have same := (k.act_withSessions h ha).1
  rwa [show k.withSessions h = h from s] at same

/-! ## The roster -/

/-- The names that come last on the roster after a change of a record. -/
theorem enroll_eq (roster : List SessionName) (name : SessionName) (before after : Option Pid) :
    enroll roster name before after =
      if before = after then roster
      else roster.filter (· != name) ++ if after.isSome then [name] else [] := by
  unfold enroll
  split
  · rfl
  · cases after <;> simp

theorem enroll_comm (roster : List SessionName) {m n : SessionName} (ne : m ≠ n)
    (a b c d : Option Pid) :
    (enroll (enroll roster m a b) n c d).Perm (enroll (enroll roster n c d) m a b) := by
  have keep (x : SessionName) (p : Option Pid) {y : SessionName} (hne : x ≠ y) :
      (if p.isSome then [x] else []).filter (· != y) = if p.isSome then [x] else [] := by
    cases p <;> simp [hne]
  by_cases hab : a = b <;> by_cases hcd : c = d
  · simp [enroll_eq, hab, hcd]
  · simp [enroll_eq, hab, hcd]
  · simp [enroll_eq, hab, hcd]
  · simp only [enroll_eq, if_neg hab, if_neg hcd, List.filter_append, keep m b ne,
      keep n d ne.symm, List.append_assoc]
    rw [List.filter_comm]
    exact List.Perm.append_left _ List.perm_append_comm

/-- Without a name, the roster is what it was without that name's records. -/
theorem filter_enroll_self (roster : List SessionName) (name : SessionName)
    (before after : Option Pid) :
    (enroll roster name before after).filter (· != name) = roster.filter (· != name) := by
  rw [enroll_eq]
  split
  · rfl
  · cases after <;> simp

theorem filter_enroll_of_ne (roster : List SessionName) {name n : SessionName} (ne : n ≠ name)
    (before after : Option Pid) :
    (enroll roster n before after).filter (· != name) =
      enroll (roster.filter (· != name)) n before after := by
  rw [enroll_eq, enroll_eq]
  split
  · rfl
  · rw [List.filter_append, List.filter_comm]
    cases after <;> simp [ne]

end House

/-! ## Runs -/

/-- A call that has come to its end did so in its room, and the other way round. -/
theorem returned_iff {ds : List Deed} {name : SessionName} {id : CallId}
    {reply : Except Trouble Reply} : Returned ds name id reply ↔
      ∃ d ∈ deedsAt name ds, ∃ e, d.turn.returned = some (id, e) ∧
        House.replyOfRoom e = reply := by
  constructor
  · intro h
    obtain ⟨e, d, hd, he, hr⟩ := h.ending
    exact ⟨d, hd, e, he, hr⟩
  · rintro ⟨d, hd, e, he, hr⟩
    obtain ⟨k, hk, b, ha, rfl⟩ := mem_deedsAt.mp hd
    exact ⟨k, hk, b, ha, (k.house.returned_act ha).mpr ⟨e, he, hr⟩⟩

theorem stdin_append (pid : Pid) (later earlier : List Write) :
    stdin pid (later ++ earlier) = stdin pid earlier ++ stdin pid later := by
  simp [stdin]

theorem stdin_eq_nil {pid : Pid} {ws : List Write} (h : ∀ w ∈ ws, w.pid ≠ pid) :
    stdin pid ws = [] := by
  rw [stdin, List.flatMap_eq_nil_iff]
  intro w hw
  obtain ⟨hm, hp⟩ := List.mem_filter.mp hw
  exact absurd (by simpa using hp) (h w (List.mem_reverse.mp hm))

/-- An action brings only new calls and new processes. -/
structure Action.Fresh (a : Action) (ds : List Deed) (h : House) : Prop where
  call : ∀ q, a.call? = some q → q.1 ∉ (begun ds).map (·.1)
  birth : ∀ b, a.birth? = some b → ∀ name, b.pid ∉ (h.room name).pids

theorem Action.Fresh.of_isNew {a : Action} {ds : List Deed} {h : House} (new : a.isNew ds h) :
    a.Fresh ds h := by
  simp only [isNew, Bool.and_eq_true] at new
  obtain ⟨call, birth⟩ := new
  refine ⟨fun q hq => ?_, fun b hb => House.not_mem_pids ?_⟩
  · simpa [hq] using call
  · simpa [hb] using birth

/-- Two actions bring neither the same call nor the same process. -/
structure Action.Distinct (x y : Action) : Prop where
  call : ∀ p q, x.call? = some p → y.call? = some q → p.1 ≠ q.1
  birth : ∀ b c, x.birth? = some b → y.birth? = some c → b.pid ≠ c.pid

theorem Action.Distinct.symm {x y : Action} (h : x.Distinct y) : y.Distinct x :=
  ⟨fun p q hp hq e => h.call q p hq hp e.symm, fun b c hb hc e => h.birth c b hc hb e.symm⟩

/-- Two steps bring about the same beside what they make of the house. -/
structure Outcome.Alike (o p : Outcome) : Prop where
  jobs : p.jobs = o.jobs
  alarms : p.alarms = o.alarms
  returned : p.returned = o.returned

/-- Houses in which the sessions are the same but for the order in which they came to be
recorded, and in which the same has happened but for the order. -/
structure House.Agrees (h k : House) : Prop where
  rooms : ∀ name, k.room name = h.room name
  roster : k.roster.Perm h.roster
  inputs : ∀ pid, stdin pid (writes k.trace) = stdin pid (writes h.trace)
  trace : k.trace.Perm h.trace
  alike : h.Alike k

/-- Whether an action is about the sessions of a name. -/
def Action.isAbout (a : Action) (name : SessionName) : Bool := a.session?.any (·.1 = name)

/-- What is left of all that was done, and of the house, when everything about a name is left
out. -/
structure Spared (name : SessionName) (ds : List Deed) (h : House) (es : List Deed) (k : House) :
    Prop where
  actions : es.map (·.action) = (ds.map (·.action)).filter (!·.isAbout name)
  empty : k.room name = { name }
  roster : k.roster = h.roster.filter (· != name)
  alike : h.Alike k
  deeds : ∀ other, other ≠ name → deedsAt other es = deedsAt other ds

namespace Run

variable {ds es : List Deed} {h k : House}

theorem fresh_act (run : Run ds h) {a : Action} (fresh : a.Fresh ds h) :
    Run (⟨h, a⟩ :: ds) (h.act a).house := run.act a fresh.call fresh.birth

/-- The processes of a name after an action are those before it, and the one that the action has
launched if it was about that name. -/
theorem mem_pids_act (run : Run ds h) {a : Action} (fresh : a.Fresh ds h) {name : SessionName}
    {pid : Pid} (hp : pid ∈ ((h.act a).house.room name).pids) :
    pid ∈ (h.room name).pids ∨
      (∃ b, a.session? = some (name, b)) ∧ ∃ b, a.birth? = some b ∧ pid = b.pid := by
  cases bearing name h a with
  | here b ha deeds =>
    rw [run.room_act fresh.call fresh.birth ha, if_pos rfl] at hp
    refine (Session.Room.mem_pids_act hp).imp id ?_
    rintro ⟨c, hc, rfl⟩
    exact ⟨⟨b, ha⟩, c, by rw [Action.birth?, ha]; exact hc, rfl⟩
  | there n b ha ne deeds =>
    rw [run.room_act fresh.call fresh.birth ha, if_neg ne.symm] at hp
    exact .inl hp
  | aside side deeds =>
    rw [side.room] at hp
    exact .inl hp

/-- Processes are only added to a room. -/
theorem pids_subset_act (run : Run ds h) {a : Action} (fresh : a.Fresh ds h) (name : SessionName) :
    (h.room name).pids ⊆ ((h.act a).house.room name).pids := by
  cases bearing name h a with
  | here b ha deeds =>
    rw [run.room_act fresh.call fresh.birth ha, if_pos rfl]
    rcases (h.room name).pids_act h.setting b with same | ⟨c, _, more⟩
    · rw [same]
      exact List.Subset.refl _
    · rw [more]
      exact List.subset_append_left _ _
  | there n b ha ne deeds =>
    rw [run.room_act fresh.call fresh.birth ha, if_neg ne.symm]
    exact List.Subset.refl _
  | aside side deeds =>
    rw [side.room]
    exact List.Subset.refl _

/-- No process belongs to two names. -/
theorem pids_apart (run : Run ds h) {m n : SessionName} (ne : m ≠ n) {pid : Pid}
    (hm : pid ∈ (h.room m).pids) : pid ∉ (h.room n).pids := by
  induction run with
  | start rooms roster trace => simp [House.room, rooms, Session.Room.pids] at hm
  | act run a call birth ih =>
    rename_i ds h
    intro hn
    have fresh : a.Fresh ds h := ⟨call, birth⟩
    rcases run.mem_pids_act fresh hm with hm | ⟨⟨b, hb⟩, c, hc, rfl⟩
    · rcases run.mem_pids_act fresh hn with hn | ⟨-, c, hc, rfl⟩
      · exact ih hm hn
      · exact birth c hc m hm
    · rcases run.mem_pids_act fresh hn with hn | ⟨⟨b', hb'⟩, -⟩
      · exact birth c hc n hn
      · rw [hb] at hb'
        exact ne (Prod.mk.inj (Option.some.inj hb')).1
  | aside run aside ih =>
    rw [aside.room] at hm ⊢
    exact ih hm

/-- What a process that belongs to no other name finds on its input was written in the room of its
name. -/
theorem stdin_eq_log (run : Run ds h) {name : SessionName} {pid : Pid}
    (own : ∀ other, other ≠ name → pid ∉ (h.room other).pids) :
    stdin pid (writes h.trace) = stdin pid (writes (Session.log (deedsAt name ds))) := by
  induction run with
  | start rooms roster trace => rw [trace]; rfl
  | act run a call birth ih =>
    rename_i ds h
    have fresh : a.Fresh ds h := ⟨call, birth⟩
    have before := ih fun other ne hm => own other ne (run.pids_subset_act fresh other hm)
    cases bearing name h a with
    | here b ha deeds =>
      rw [trace_act ha, writes_append, stdin_append, before, deeds,
        Session.Course.writes_log_cons, stdin_append]
      rfl
    | there n b ha ne deeds =>
      have next := (run.fresh_act fresh).course n
      have silent : stdin pid (writes ((h.room n).act h.setting b).trace) = [] := by
        refine stdin_eq_nil fun w hw e => own n ne (e ▸ next.pids_of_sublist.1 w ?_)
        rw [deedsAt_cons_self ha, Session.Course.writes_log_cons]
        exact List.mem_append_left _ hw
      rw [trace_act ha, writes_append, stdin_append, before, deeds, silent, List.append_nil]
    | aside side deeds =>
      obtain ⟨xs, hx, hs⟩ := side.trace
      rw [hx, writes_append, writes_of_aside hs, List.nil_append, before, deeds]
  | aside run aside ih =>
    obtain ⟨xs, hx, hs⟩ := aside.trace
    rw [hx, writes_append, writes_of_aside hs, List.nil_append]
    exact ih fun other ne => aside.room other ▸ own other ne

/-- What was done in the room of a name says how the room is. -/
theorem room_congr (run : Run ds h) (other : Run es k) {name : SessionName}
    (deeds : deedsAt name es = deedsAt name ds) : k.room name = h.room name :=
  (run.course name).room_unique (deeds ▸ other.course name)

/-- What was done in the room of a name says what its processes find on their input. -/
theorem stdin_congr (run : Run ds h) (other : Run es k) {name : SessionName}
    (deeds : deedsAt name es = deedsAt name ds) {pid : Pid} (hp : pid ∈ (h.room name).pids) :
    stdin pid (writes k.trace) = stdin pid (writes h.trace) := by
  have hk : pid ∈ (k.room name).pids := by rwa [run.room_congr other deeds]
  rw [run.stdin_eq_log fun m ne => run.pids_apart ne.symm hp,
    other.stdin_eq_log fun m ne => other.pids_apart ne.symm hk, deeds]

/-- Nothing is written to what is no process. -/
theorem stdin_of_no_process (run : Run ds h) {pid : Pid} (none : ∀ name, pid ∉ (h.room name).pids) :
    stdin pid (writes h.trace) = [] := by
  refine stdin_eq_nil fun w hw e => ?_
  obtain ⟨name, hn⟩ := run.exists_name hw
  exact none name (e ▸ (run.course name).pids_of_sublist.1 w hn)

/-- Runs in which the same was done in every room lead to the same rooms and the same inputs. -/
theorem stdin_congr_all (run : Run ds h) (other : Run es k)
    (deeds : ∀ name, deedsAt name es = deedsAt name ds) (pid : Pid) :
    stdin pid (writes k.trace) = stdin pid (writes h.trace) := by
  by_cases none : ∀ name, pid ∉ (h.room name).pids
  · have none' : ∀ name, pid ∉ (k.room name).pids := fun name => by
      rw [run.room_congr other (deeds name)]
      exact none name
    rw [run.stdin_of_no_process none, other.stdin_of_no_process none']
  · obtain ⟨name, hp⟩ := not_forall.mp none
    exact run.stdin_congr other (deeds name) (not_not.mp hp)

/-! ### Two steps -/

section Swap

variable {x y : Action} {m n : SessionName} {b c : Session.Action}

/-- What is new stays new after another step. -/
theorem fresh_after (run : Run ds h) (hx : x.Fresh ds h) (hy : y.Fresh ds h)
    (distinct : x.Distinct y) : y.Fresh (⟨h, x⟩ :: ds) (h.act x).house where
  call q hq hm := by
    rw [begun, List.filterMap_cons] at hm
    cases hc : x.call? with
    | none => exact hy.call q hq (by simpa [hc, begun] using hm)
    | some p =>
      rw [hc] at hm
      rcases List.mem_cons.mp hm with he | hm
      · exact distinct.call p q hc hq he.symm
      · exact hy.call q hq hm
  birth e he name hp := by
    rcases run.mem_pids_act hx hp with hp | ⟨-, f, hf, same⟩
    · exact hy.birth e he name hp
    · exact distinct.birth f e hf he same.symm

/-- A step in the room of another name finds what it would have found before. -/
theorem room_after (run : Run ds h) (hx : x.Fresh ds h) (ha : x.session? = some (m, b))
    (ne : m ≠ n) : (h.act x).house.room n = h.room n := by
  rw [run.room_act hx.call hx.birth ha, if_neg ne.symm]

theorem at?_after (run : Run ds h) (hx : x.Fresh ds h) (ha : x.session? = some (m, b))
    (hc : y.session? = some (n, c)) (ne : m ≠ n) (name : SessionName) :
    (⟨(h.act x).house, y⟩ : Deed).at? name = (⟨h, y⟩ : Deed).at? name := by
  by_cases hn : n = name
  · subst hn
    simp [Deed.at?, hc, run.room_after hx ha ne, h.setting_act ha]
  · simp [Deed.at?, hc, hn]

/-- A step in the room of another name brings about what it would have brought about before. -/
theorem outcome_after (run : Run ds h) (hx : x.Fresh ds h) (ha : x.session? = some (m, b))
    (hc : y.session? = some (n, c)) (ne : m ≠ n) :
    (h.act y).Alike ((h.act x).house.act y) := by
  rw [h.act_session hc, (h.act x).house.act_session hc]
  unfold House.actRoom
  rw [run.room_after hx ha ne, h.setting_act ha]
  exact ⟨rfl, rfl, rfl⟩

theorem deedsAt_swap (run : Run ds h) (hx : x.Fresh ds h) (hy : y.Fresh ds h)
    (ha : x.session? = some (m, b)) (hc : y.session? = some (n, c)) (ne : m ≠ n)
    (name : SessionName) :
    deedsAt name (⟨(h.act y).house, x⟩ :: ⟨h, y⟩ :: ds) =
      deedsAt name (⟨(h.act x).house, y⟩ :: ⟨h, x⟩ :: ds) := by
  simp only [deedsAt_cons, run.at?_after hx ha hc ne, run.at?_after hy hc ha ne.symm]
  by_cases hm : m = name
  · have other : (⟨h, y⟩ : Deed).at? name = none := by
      simp [Deed.at?, hc, (hm ▸ ne).symm]
    simp [other]
  · have other : (⟨h, x⟩ : Deed).at? name = none := by simp [Deed.at?, ha, hm]
    simp [other]

/-- Two steps about different names lead to the same house in either order. -/
theorem agrees_swap (run : Run ds h) (hx : x.Fresh ds h) (hy : y.Fresh ds h)
    (distinct : x.Distinct y) (ha : x.session? = some (m, b)) (hc : y.session? = some (n, c))
    (ne : m ≠ n) :
    ((h.act x).house.act y).house.Agrees ((h.act y).house.act x).house := by
  have straight := (run.fresh_act hx).fresh_act (run.fresh_after hx hy distinct)
  have turned := (run.fresh_act hy).fresh_act (run.fresh_after hy hx distinct.symm)
  have deeds := run.deedsAt_swap hx hy ha hc ne
  have hm := run.room_after hy hc ne.symm
  have hn := run.room_after hx ha ne
  refine ⟨fun name => straight.room_congr turned (deeds name), ?_,
    straight.stdin_congr_all turned deeds, ?_, ?_⟩
  · rw [House.roster_act _ ha, House.roster_act _ hc, House.roster_act _ hc,
      House.roster_act _ ha, hm, hn, h.setting_act ha, h.setting_act hc]
    exact House.enroll_comm _ ne.symm _ _ _ _
  · rw [trace_act ha, trace_act hc, trace_act hc, trace_act ha, hm, hn, h.setting_act ha,
      h.setting_act hc, ← List.append_assoc, ← List.append_assoc]
    exact List.Perm.append_right _ List.perm_append_comm
  · exact ((House.alike_act _ hc).symm.trans (h.alike_act ha).symm).trans
      ((h.alike_act hc).trans (House.alike_act _ ha))

end Swap

/-! ### A name left out -/

section Leaving

variable {name : SessionName}

theorem begun_eq (ds : List Deed) :
    begun ds = (ds.map (·.action)).filterMap (·.call?) := by
  simp [begun, List.filterMap_map]

/-- A deed that is about another name is done with the name left out too. -/
theorem spared_act (run : Run ds h) (other : Run es k) (spared : Spared name ds h es k)
    {a : Action} (fresh : a.Fresh ds h) (apart : a.isAbout name = false) :
    a.Fresh es k := by
  refine ⟨fun q hq hm => fresh.call q hq ?_, fun b hb n hp => ?_⟩
  · have fewer : (begun es).Sublist (begun ds) := by
      rw [begun_eq, begun_eq, spared.actions]
      exact List.filter_sublist.filterMap _
    exact (fewer.map _).subset hm
  · by_cases hn : n = name
    · subst hn
      rw [spared.empty] at hp
      cases hp
    · rw [run.room_congr other (spared.deeds n hn)] at hp
      exact fresh.birth b hb n hp

/-- Everything about a name can be left out of a run. -/
theorem exists_spared (run : Run ds h) (name : SessionName) :
    ∃ es k, Run es k ∧ Spared name ds h es k := by
  induction run with
  | start rooms roster trace =>
    rename_i h
    refine ⟨[], h, .start rooms roster trace, rfl, by simp [House.room, rooms],
      by simp [roster], .refl h, fun _ _ => rfl⟩
  | act run a call birth ih =>
    rename_i ds h
    obtain ⟨es, k, other, spared⟩ := ih
    have fresh : a.Fresh ds h := ⟨call, birth⟩
    cases ha : a.session? with
    | none =>
      have apart : a.isAbout name = false := by simp [Action.isAbout, ha]
      have side := k.act_aside ha
      have away (n : SessionName) (l : House) (ls : List Deed) :
          deedsAt n (⟨l, a⟩ :: ls) = deedsAt n ls := by simp [deedsAt_cons, Deed.at?, ha]
      refine ⟨⟨k, a⟩ :: es, (k.act a).house,
        other.fresh_act (run.spared_act other spared fresh apart), ?_, ?_, ?_, ?_, ?_⟩
      · simp [spared.actions, apart]
      · rw [side.room, spared.empty]
      · rw [side.roster, (h.act_aside ha).roster, spared.roster]
      · exact spared.alike.act ha
      · intro n hn
        rw [away, away, spared.deeds n hn]
    | some x =>
      obtain ⟨n, b⟩ := x
      by_cases hn : n = name
      · subst hn
        refine ⟨es, k, other, ?_, spared.empty, ?_, ?_, ?_⟩
        · simp [spared.actions, Action.isAbout, ha]
        · rw [House.roster_act _ ha, House.filter_enroll_self, spared.roster]
        · exact (h.alike_act ha).symm.trans spared.alike
        · intro m hm
          rw [spared.deeds m hm, deedsAt_cons]
          simp [Deed.at?, ha, hm.symm]
      · have apart : a.isAbout name = false := by simp [Action.isAbout, ha, hn]
        have fresh' := run.spared_act other spared fresh apart
        have room : k.room n = h.room n := run.room_congr other (spared.deeds n hn)
        have setting : k.setting = h.setting := spared.alike.setting
        refine ⟨⟨k, a⟩ :: es, (k.act a).house, other.fresh_act fresh', ?_, ?_, ?_, ?_, ?_⟩
        · simp [spared.actions, apart]
        · rw [other.room_after fresh' ha hn, spared.empty]
        · rw [House.roster_act _ ha, House.roster_act _ ha, House.filter_enroll_of_ne _ hn,
            spared.roster, room, setting]
        · exact ((h.alike_act ha).symm.trans spared.alike).trans (k.alike_act ha)
        · intro m hm
          have room := run.room_congr other (spared.deeds m hm)
          rw [deedsAt_cons, deedsAt_cons, spared.deeds m hm]
          simp [Deed.at?, ha, room, setting]
  | aside run aside ih =>
    rename_i ds h l
    obtain ⟨es, k, other, spared⟩ := ih
    obtain ⟨xs, hx, hs⟩ := aside.trace
    refine ⟨es, { l with rooms := k.rooms, roster := k.roster, trace := xs ++ k.trace },
      other.aside ⟨rfl, rfl, xs, rfl, hs⟩, spared.actions, spared.empty, ?_, rfl, spared.deeds⟩
    rw [aside.roster]
    exact spared.roster

end Leaving

end Run

end ToolHost

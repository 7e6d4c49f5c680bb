import Mathlib
import ToolHost.Proofs.Session.Processes

/-!
# How calls end

A call that ends with a session ends with the one that is recorded, and that one is live. No call
ends for want of something at the latch.
-/
namespace ToolHost.Session

/-- The ending that a call has come to, as long as it is under way. -/
def Focus.ending? : Focus → Option Ending
  | .inside _ (.leaving e) | .behind _ e | .through _ _ e => e
  | _ => none

def Focus.isClosed : Focus → Bool
  | .closed _ _ => true
  | _ => false

/-- The session that a call ends with is the recorded one, as it is now, and live. -/
structure Room.Gives (r : Room) (v : View) : Prop where
  recorded : r.recorded = some v.pid
  current : v = r.session v.pid
  live : v.isLive

/-- An ending that a call may come to: one that creates processes gives a session unless it
fails. -/
def Ending.Fair (r : Room) (q : Request) : Ending → Prop
  | .session v => q.launches ∧ r.Gives v
  | .done => q.launches = false
  | .failed t => t ≠ .breakdown .missingKey
  | .abandoned => True

theorem Room.session_congr {r q : Room} (name : q.name = r.name)
    (children : q.children = r.children) (pid : Pid) : q.session pid = r.session pid := by
  unfold session
  rw [child_congr children, name]

theorem Ending.Fair.congr {r q : Room} {request : Request} {e : Ending} (h : e.Fair r request)
    (name : q.name = r.name) (children : q.children = r.children)
    (recorded : q.recorded = r.recorded) : e.Fair q request := by
  cases e with
  | session v =>
    refine ⟨h.1, recorded.trans h.2.recorded, ?_, h.2.live⟩
    rw [Room.session_congr name children]
    exact h.2.current
  | _ => exact h

/-- A call under way has come to no unfair ending, and only one that is over has ended. -/
structure Replied (f : Focus) (t : Turn) : Prop where
  borne : ∀ e q, f.ending? = some e → f.call? = some q → e.Fair t.room q.2
  given : ∀ id e, t.returned = some (id, e) → ∃ q, f = .closed id q ∧ e.Fair t.room q

namespace Replied

variable {f g : Focus} {t u : Turn}

/-- Nothing is returned, and the call under way comes to a fair ending. -/
theorem bear (h : Replied f t) (going : f.isClosed = false) (returned : u.returned = t.returned)
    (ending : ∀ e q, g.ending? = some e → g.call? = some q → e.Fair u.room q.2) : Replied g u where
  borne := ending
  given id e hr := by
    rw [returned] at hr
    obtain ⟨q, rfl, _⟩ := h.given id e hr
    cases going

/-- Nothing is returned, and there is no ending yet. -/
theorem keep (h : Replied f t) (going : f.isClosed = false) (returned : u.returned = t.returned)
    (ending : g.ending? = none) : Replied g u :=
  h.bear going returned fun e _ he => by rw [ending] at he; cases he

/-- Nothing is returned, and the call under way keeps its ending. -/
theorem carry (h : Replied f t) (going : f.isClosed = false)
    (returned : u.returned = t.returned) (ending : g.ending? = f.ending?)
    (call : g.call? = f.call?) (name : u.room.name = t.room.name)
    (children : u.room.children = t.room.children)
    (recorded : u.room.recorded = t.room.recorded) : Replied g u :=
  h.bear going returned fun e q he hq =>
    (h.borne e q (ending ▸ he) (call ▸ hq)).congr name children recorded

/-- The call under way ends. -/
theorem close {id : CallId} {request : Request} {e : Ending} (returned : u.returned = some (id, e))
    (fair : e.Fair u.room request) : Replied (.closed id request) u where
  borne _ _ he := nomatch he
  given i x hx := by
    rw [returned] at hx
    cases hx
    exact ⟨_, rfl, fair⟩

theorem begins (r : Room) (a : Action) : Replied a.focus { room := r } where
  borne := by cases a <;> exact fun _ _ e => nomatch e
  given _ _ e := nomatch e

theorem spare (h : Replied .idle t) (s : Spares t u) : Replied .idle u :=
  h.carry rfl s.returned rfl rfl s.name s.children s.recorded

end Replied

theorem Move.replied {f g : Focus} {t u : Turn} (m : Move f t g u) (s : Sound f t.room)
    (h : Replied f t) : Replied g u := by
  have line (e : Ending) (he : e = .done ∨ e = .failed (.failure (.noActiveSession t.room.name)))
      {q : Request} (hq : q.isLine) : e.Fair u.room q := by
    rcases he with rfl | rfl
    · cases q with
      | send line => rfl
      | _ => cases hq
    · exact Trouble.noConfusion
  cases m with
  | drift hd still =>
    rcases still with may | same
    · refine h.keep ?_ hd.returned ?_
      · cases f <;> first | rfl | cases may
      · cases f with
        | inside v st => cases st <;> first | rfl | cases may
        | _ => first | rfl | cases may
    · refine ⟨same ▸ h.borne, ?_⟩
      rw [hd.returned, same]
      exact h.given
  | approach _ => exact h.keep rfl rfl rfl
  | enter _ => exact h.keep rfl rfl rfl
  | queue _ => exact h.keep rfl rfl rfl
  | letIn mem latch phase wake => exact h.keep rfl rfl rfl
  | retreat mem latch phase wake eq =>
    subst eq
    refine h.bear rfl ?_ ?_
    · split
      · rfl
      · exact Turn.returned_invite _ _ _
    · rintro e q ⟨⟩ _
      trivial
  | resume mem latch goesOn awake =>
    rename_i c n st
    refine h.bear rfl rfl ?_
    intro e q he _
    have hd : c.phase ≠ .draining := by
      intro hp
      rw [(s.placed.suits mem).latch.mpr hp] at latch
      cases latch
    have hs : st = .leaving (some e) := by
      cases st <;> cases he
      rfl
    subst hs
    cases hp : c.phase <;> cases hw : c.wake <;> rw [hp, hw] at goesOn <;> cases goesOn <;> trivial
  | pass line => exact h.keep rfl rfl rfl
  | find request recorded live =>
    refine h.bear rfl rfl ?_
    rintro e q ⟨⟩ ⟨⟩
    exact ⟨by rw [request]; rfl, recorded, rfl, live⟩
  | miss line recorded => exact h.keep rfl rfl rfl
  | pop line recorded => exact h.keep rfl rfl rfl
  | reap hr => exact h.keep rfl rfl rfl
  | clear => exact h.keep rfl rfl rfl
  | park stage asleep => exact h.keep rfl rfl rfl
  | giveUp he =>
    refine h.bear rfl rfl ?_
    rintro e q ⟨⟩ ⟨⟩
    rename_i v x
    cases x with
    | session w => cases he
    | done =>
      have hq : v.request = .stop := he
      exact congrArg Request.launches hq
    | failed t => exact he.2
    | abandoned => cases he
  | adopt dir b fresh launches =>
    refine h.bear rfl rfl ?_
    rintro e q ⟨⟩ ⟨⟩
    refine ⟨launches, rfl, rfl, ?_⟩
    change ((t.room.adopt dir b).child b.pid).isLive
    rw [Room.child_adopt fresh, if_pos rfl]
    rfl
  | release =>
    exact h.carry rfl (Turn.returned_invite _ _ _) rfl rfl (Turn.name_invite _ _ _)
      (Turn.children_invite _ _ _) (Turn.recorded_invite _ _ _)
  | depart users more => exact h.carry rfl rfl rfl rfl rfl rfl rfl
  | departLast users recorded => exact h.carry rfl rfl rfl rfl rfl rfl rfl
  | dropLatch users recorded latch => exact h.carry rfl rfl rfl rfl rfl rfl rfl
  | stumble lacks => exact absurd lacks s.counted.sound
  | direct hn => exact h.keep rfl rfl rfl
  | refuse hs => exact .close rfl (line _ (.inr rfl) rfl)
  | write live input => exact h.keep rfl rfl rfl
  | block => exact h.keep rfl rfl rfl
  | answer he => exact .close rfl (line _ he rfl)
  | finish => exact .close rfl (h.borne _ _ rfl rfl)
  | drain mem phase he => exact .close rfl (line _ he ((s.placed.suits mem).draining phase))
  | forsake mem latch => exact .close rfl trivial

theorem Sound.act_replied {r : Room} (h : Sound .idle r) {s : Setting} (sane : s.Sane) {a : Action}
    (fits : a.Fits r) : ∃ f, f.IsOver a.subject? ∧ Replied f (r.act s a) := by
  exact h.act_yields (P := Replied) sane fits (fun m hm hk => m.replied hm hk)
    (fun hs hk => hk.spare hs) (.begins r a)

/-- An action ends no call but the one that goes on with it. -/
theorem Sound.subject_of_returned {r : Room} (h : Sound .idle r) {s : Setting} (sane : s.Sane)
    {a : Action} (fits : a.Fits r) {id : CallId} {e : Ending}
    (returned : (r.act s a).returned = some (id, e)) : a.subject? = some id := by
  obtain ⟨f, ho, hf⟩ := h.act_replied sane fits
  obtain ⟨q, rfl, _⟩ := hf.given id e returned
  exact ho

/-! ## What calls leave behind -/

/-- Where a call that is no line has come to its end, it gives a session, or nothing is recorded,
nothing runs, no relay goes on and nobody waits inside the latch. -/
def Cleared (f : Focus) (t : Turn) : Prop :=
  ∀ id q e, f.call? = some (id, q) → q.isLine = false →
    f.ending? = some e ∨ t.returned = some (id, e) →
      (q.launches ∧ ∃ v, e = .session v) ∨
        (q.mayEnd e ∧ Stage.vacant.Holds t.room ∧ t.room.insiders = 0)

namespace Cleared

variable {f g : Focus} {t u : Turn}

/-- Nothing is returned, and there is no ending yet. -/
theorem keep (returned : u.returned = none) (ending : g.ending? = none) : Cleared g u := by
  rintro id q e - - (h | h)
  · rw [ending] at h
    cases h
  · rw [returned] at h
    cases h

/-- Nothing is returned, and the call under way comes to a session. -/
theorem give {id : CallId} {q : Request} {v : View} (returned : u.returned = none)
    (call : g.call? = some (id, q)) (ending : g.ending? = some (.session v))
    (launches : q.launches) : Cleared g u := by
  rintro i p e hc - (h | h)
  · rw [call] at hc
    cases hc
    rw [ending] at h
    cases h
    exact .inl ⟨launches, v, rfl⟩
  · rw [returned] at h
    cases h

/-- The call under way is a line. -/
theorem line {id : CallId} {q : Request} (call : g.call? = some (id, q)) (line : q.isLine) :
    Cleared g u := by
  intro i p e hc other
  rw [call] at hc
  cases hc
  rw [line] at other
  cases other

/-- The call under way had come to its ending before. -/
theorem carry (h : Cleared f t) (call : g.call? = f.call?)
    (ending : ∀ id e, g.ending? = some e ∨ u.returned = some (id, e) → f.ending? = some e)
    (recorded : u.room.recorded = t.room.recorded)
    (children : u.room.children = t.room.children) (places : u.room.places = t.room.places) :
    Cleared g u := by
  intro id q e hc other he
  refine (h id q e (call ▸ hc) other (.inl (ending id e he))).imp_right fun k => ?_
  exact ⟨k.1, k.2.1.mono recorded (.of_children children), (Room.insiders_congr places).trans k.2.2⟩

end Cleared

theorem Move.cleared {f g : Focus} {t u : Turn} (m : Move f t g u) (s : Sound f t.room)
    (tidy : Tidy f t.room) (r : Replied f t) (h : Cleared f t) : Cleared g u := by
  have going (hf : f.isClosed = false) : t.returned = none := by
    refine Option.eq_none_iff_forall_ne_some.mpr ?_
    rintro ⟨id, e⟩ hr
    obtain ⟨q, rfl, _⟩ := r.given id e hr
    cases hf
  -- The call is on its way out, and nothing is returned yet.
  have out {g : Focus} {u : Turn} (hf : f.isClosed = false) (call : g.call? = f.call?)
      (ending : g.ending? = f.ending?) (returned : u.returned = t.returned)
      (recorded : u.room.recorded = t.room.recorded)
      (children : u.room.children = t.room.children) (places : u.room.places = t.room.places) :
      Cleared g u := by
    refine h.carry call ?_ recorded children places
    rintro id e (he | he)
    · exact ending ▸ he
    · rw [returned, going hf] at he
      cases he
  cases m with
  | drift hd still =>
    rcases still with may | same
    · have hf : f.isClosed = false := by cases f <;> first | rfl | cases may
      refine .keep (hd.returned.trans (going hf)) ?_
      cases f with
      | inside v st => cases st <;> first | rfl | cases may
      | _ => first | rfl | cases may
    · intro id q e hc other he
      rw [same]
      exact h id q e hc other (hd.returned ▸ he)
  | retreat mem latch phase wake eq => exact absurd wake (tidy.calm _ mem)
  | resume mem latch goesOn awake =>
    rename_i c n st
    refine .keep (going rfl) ?_
    have calm := tidy.calm c mem
    have inside : c.phase ≠ .draining := by
      intro hp
      rw [(s.placed.suits mem).latch.mpr hp] at latch
      cases latch
    cases hp : c.phase <;> cases hw : c.wake <;> simp_all [Phase.goesOn?] <;> subst goesOn <;> rfl
  | find request recorded live => exact .give (going rfl) rfl rfl (by rw [request]; rfl)
  | giveUp may =>
    rintro id q e hc - (he | he)
    · cases hc
      cases he
      exact .inr ⟨may, tidy.focus _ _ rfl, s.alone.2⟩
    · rw [going rfl] at he
      cases he
  | adopt dir b fresh launches => exact .give (going rfl) rfl rfl launches
  | release =>
    exact out rfl rfl rfl (Turn.returned_invite _ _ _) (Turn.recorded_invite _ _ _)
      (Turn.children_invite _ _ _) (Turn.places_release _ _)
  | depart users more => exact out rfl rfl rfl rfl rfl rfl rfl
  | departLast users recorded => exact out rfl rfl rfl rfl rfl rfl rfl
  | dropLatch users recorded latch => exact out rfl rfl rfl rfl rfl rfl rfl
  | stumble lacks => exact absurd lacks s.counted.sound
  | direct hn => exact .line rfl rfl
  | refuse hs => exact .line rfl rfl
  | write live input => exact .line rfl rfl
  | block => exact .line rfl rfl
  | answer he => exact .line rfl rfl
  | finish =>
    refine h.carry rfl ?_ rfl rfl rfl
    rintro id e (he | he) <;> cases he
    rfl
  | drain mem phase he => exact .line rfl ((s.placed.suits mem).draining phase)
  | forsake mem latch =>
    exact .line rfl ((s.placed.suits mem).draining ((s.placed.suits mem).latch.mp latch))
  | _ => exact .keep (going rfl) rfl

end ToolHost.Session

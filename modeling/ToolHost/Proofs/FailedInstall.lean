import ToolHost.Proofs.Install.Course

/-!
# Installations that fail

An installation ends with the artifact, or is to fail with a report: that it could not be fetched,
with the status if one was received that is no success, or that it could not be written. Some
trouble is not reported so: a home directory that cannot be found out, a place of which the system
cannot tell whether something stands there or whose text it cannot take, and an address that cannot
be understood.
-/
namespace ToolHost

open Machine Install

/-- All that was done in a house from a state on, the latest first, and the house now. Between two
actions anything else may change but the installations under way. -/
inductive Amid (h : House) : List Deed → House → Prop
  | start : Amid h [] h
  | act {ds : List Deed} {k : House} (amid : Amid h ds k) (a : Action) :
      Amid h (⟨k, a⟩ :: ds) (k.act a).house
  | aside {ds : List Deed} {k l : House} (amid : Amid h ds k) (installs : l.installs = k.installs) :
      Amid h ds l

/-- An order that was given with a call. -/
def Ordered (ds : List Deed) (id : CallId) (o : Order) : Prop :=
  ∃ e ∈ ds, ∃ target artifactName,
    e.action = .begin id (.install target artifactName (.scalar (.text o.url))) ∧
      Install.order e.house.host target artifactName o.url = .ok o

namespace Deed

/-- The call of an installation that an action is about. Its address is a text. -/
def install? (d : Deed) : Option CallId :=
  match d.action with
  | .begin id (.install _ _ (.scalar (.text _))) | .received id _ _ _ => some id
  | _ => none

/-- What fetching an address has come to. -/
def outcome? (d : Deed) : Option Http.Outcome :=
  match d.action with
  | .received _ _ outcome _ => some outcome
  | _ => none

/-- The ways in which an installation is to end. -/
inductive Fulfils (d : Deed) (o : Order) : Except Trouble Reply → Prop
  | present (found : look d.house.host o = .ok .present) :
      Fulfils d o (.ok (.installed ⟨o.path, none⟩))
  | installed {url : String} {r : Http.Response} (came : d.outcome? = some (.response url r))
      (success : r.isSuccess) : Fulfils d o (.ok (.installed ⟨o.path, some r.body.length⟩))
  /-- No response arrived. -/
  | unreachable {reason : String} (came : d.outcome? = some (.fault reason)) :
      Fulfils d o (.error (.failure (.fetch o.url reason none)))
  | refused {url : String} {r : Http.Response} (came : d.outcome? = some (.response url r))
      (failed : r.isSuccess = false) :
      Fulfils d o (.error (.failure (.fetch o.url (Http.reasonPhrase r.status) (some r.status))))
  | unwritten {url : String} {r : Http.Response} (came : d.outcome? = some (.response url r))
      (success : r.isSuccess) (e : Errno) :
      Fulfils d o (.error (.failure (.write o.path.text e.message)))

/-- The ways in which an installation ends without a report. -/
inductive Breaks (d : Deed) : Breakdown → Prop
  /-- The home directory that is meant is not known. -/
  | noHome {id : CallId} {target : Path} {artifactName : String} {url : Value}
      (asked : d.action = .begin id (.install target artifactName url))
      (unknown : d.house.host.expandHome? target = none) : Breaks d .noHome
  /-- The system cannot tell whether the artifact is there. -/
  | untold {o : Order} (order : d.order? = some o) {code : Int}
      (refused : look d.house.host o = .error (.system code)) : Breaks d (.system code)
  /-- Fetching breaks down. -/
  | broken {b : Breakdown} (came : d.outcome? = some (.broken b)) : Breaks d b
  /-- The place of the artifact has a text that the system cannot take. -/
  | unfit {o : Order} (order : d.order? = some o)
      (unusable : isUsable o.target = false ∨ isUsable o.path = false) : Breaks d .badValue

/-- How an installation ended: in one of the ways in which it is to, or in one of the others. -/
def Answers (ds : List Deed) (d : Deed) (id : CallId) (reply : Except Trouble Reply) : Prop :=
  (∃ o, Ordered ds id o ∧ d.Fulfils o reply) ∨ ∃ b, d.Breaks b ∧ reply = .error (.breakdown b)

end Deed

/-! ## What the two halves do -/

theorem Ordered.mono {ds es : List Deed} {id : CallId} {o : Order} (h : Ordered ds id o)
    (sub : ds ⊆ es) : Ordered es id o := by
  obtain ⟨e, he, rest⟩ := h
  exact ⟨e, sub he, rest⟩

/-- What becomes of an installation when it begins. -/
inductive Begun (k : House) (id : CallId) (target : Path) (artifactName url : String)
    (out : Outcome) : Prop
  | noHome (unknown : k.host.expandHome? target = none) (installs : out.house.installs = k.installs)
      (returned : out.returned = some (id, .error (.breakdown .noHome)))
  | untold (o : Order) (order : Install.order k.host target artifactName url = .ok o) (code : Int)
      (refused : look k.host o = .error (.system code)) (installs : out.house.installs = k.installs)
      (returned : out.returned = some (id, .error (.breakdown (.system code))))
  | present (o : Order) (order : Install.order k.host target artifactName url = .ok o)
      (found : look k.host o = .ok .present) (installs : out.house.installs = k.installs)
      (returned : out.returned = some (id, .ok (.installed ⟨o.path, none⟩)))
  | missing (o : Order) (order : Install.order k.host target artifactName url = .ok o)
      (found : look k.host o = .ok .missing)
      (installs : out.house.installs = k.installs ++ [(id, o)]) (returned : out.returned = none)

theorem look_error {h : Host} {o : Order} {b : Breakdown} (refused : look h o = .error b) :
    ∃ code, b = .system code := by
  unfold look Config.Place.exists? at refused
  cases stat : h.files.exists? o.path with
  | error e =>
    rw [stat] at refused
    cases refused
    exact ⟨_, rfl⟩
  | ok found =>
    rw [stat] at refused
    cases refused

theorem House.beginInstall_begun (k : House) (id : CallId) (target : Path)
    (artifactName url : String) :
    Begun k id target artifactName url
      (k.beginInstall id target artifactName (.scalar (.text url))) := by
  cases order : Install.order k.host target artifactName url with
  | error b =>
    have unknown : k.host.expandHome? target = none ∧ b = .noHome := by
      unfold Install.order at order
      split at order
      · cases order
      · cases order
        exact ⟨by assumption, rfl⟩
    obtain ⟨unknown, rfl⟩ := unknown
    have eq : k.beginInstall id target artifactName (.scalar (.text url)) =
        ⟨k, [], [], some (id, .error (.breakdown .noHome))⟩ := by
      simp only [beginInstall, Value.written, Scalar.written, order]
    rw [eq]
    exact .noHome unknown rfl rfl
  | ok o =>
    cases found : look k.host o with
    | error b =>
      obtain ⟨code, rfl⟩ := look_error found
      have eq : k.beginInstall id target artifactName (.scalar (.text url)) =
          ⟨k, [], [], some (id, .error (.breakdown (.system code)))⟩ := by
        simp only [beginInstall, Value.written, Scalar.written, order, found]
      rw [eq]
      exact .untold o order code found rfl rfl
    | ok finding =>
      cases finding with
      | present =>
        have eq : k.beginInstall id target artifactName (.scalar (.text url)) =
            ⟨{ k.say (.present o.path.text) with location := o.location }, [], [],
              some (id, .ok (.installed ⟨o.path, none⟩))⟩ := by
          simp only [beginInstall, Value.written, Scalar.written, order, found]
        rw [eq]
        exact .present o order found rfl rfl
      | missing =>
        have eq : k.beginInstall id target artifactName (.scalar (.text url)) =
            { house := { k.say (.fetching o.url) with installs := k.installs ++ [(id, o)] } } := by
          simp only [beginInstall, Value.written, Scalar.written, order, found]
          rfl
        rw [eq]
        exact .missing o order found rfl rfl

theorem order_url {h : Host} {target : Path} {artifactName url : String} {o : Order}
    (order : Install.order h target artifactName url = .ok o) : o.url = url := by
  unfold Install.order at order
  split at order
  · cases order
    rfl
  · cases order

/-- No installation is under way whose address is no text. -/
theorem House.installs_of_noText (k : House) (id : CallId) (target : Path) (artifactName : String)
    {url : Value} (noText : ∀ s, url ≠ .scalar (.text s)) :
    (k.beginInstall id target artifactName url).house.installs = k.installs := by
  unfold beginInstall
  simp only
  split
  · rfl
  · split
    · rfl
    · rfl
    · rfl

/-- What is under way afterwards was under way, or is ordered here. -/
theorem House.mem_installs_act (k : House) (a : Action) {id : CallId} {o : Order}
    (mem : (id, o) ∈ (k.act a).house.installs) :
    (id, o) ∈ k.installs ∨ Ordered [⟨k, a⟩] id o := by
  cases a with
  | room name b => exact .inl mem
  | shot b => exact .inl mem
  | received i asked outcome refusal =>
    change (id, o) ∈ (k.receive i asked outcome refusal).house.installs at mem
    unfold receive at mem
    split at mem
    · exact .inl mem
    · exact .inl (List.mem_filter.mp mem).1
  | begin i call =>
    cases call with
    | session name request => exact .inl mem
    | oneShot artifact dir text => exact .inl mem
    | awaitOneShots => exact .inl mem
    | install target artifactName url =>
      change (id, o) ∈ (k.beginInstall i target artifactName url).house.installs at mem
      by_cases text : ∃ s, url = .scalar (.text s)
      · obtain ⟨s, rfl⟩ := text
        cases k.beginInstall_begun i target artifactName s with
        | noHome _ installs => exact .inl (installs ▸ mem)
        | untold _ _ _ _ installs => exact .inl (installs ▸ mem)
        | present _ _ _ installs => exact .inl (installs ▸ mem)
        | missing p order _ installs =>
          rw [installs, List.mem_append, List.mem_singleton] at mem
          refine mem.imp_right fun same => ?_
          obtain ⟨rfl, rfl⟩ := Prod.mk.inj same
          obtain rfl := order_url order
          exact ⟨_, List.mem_singleton_self _, target, artifactName, rfl, order⟩
      · rw [k.installs_of_noText i target artifactName (not_exists.mp text)] at mem
        exact .inl mem

/-- Whatever is under way was ordered. -/
theorem Amid.ordered {h k : House} {ds : List Deed} (amid : Amid h ds k) (none : h.installs = [])
    {id : CallId} {o : Order} (mem : (id, o) ∈ k.installs) : Ordered ds id o := by
  induction amid with
  | start =>
    rw [none] at mem
    cases mem
  | @act ds k amid a ih =>
    rcases k.mem_installs_act a mem with mem | ordered
    · exact (ih mem).mono (List.subset_cons_self _ _)
    · exact ordered.mono (by simp)
  | aside amid installs ih => exact ih (installs ▸ mem)

theorem Amid.of_mem {h k : House} {ds : List Deed} (amid : Amid h ds k) {d : Deed} (done : d ∈ ds) :
    ∃ es, Amid h es d.house ∧ es ⊆ ds := by
  induction amid with
  | start => cases done
  | @act ds k amid a ih =>
    rcases List.mem_cons.mp done with rfl | done
    · exact ⟨ds, amid, List.subset_cons_self _ _⟩
    · obtain ⟨es, before, sub⟩ := ih done
      exact ⟨es, before, fun e he => List.mem_cons_of_mem _ (sub he)⟩
  | aside _ _ ih => exact ih done

namespace Deed

variable {d : Deed} {ds : List Deed} {id i : CallId} {o : Order} {reply : Except Trouble Reply}

/-- What comes of a response. -/
theorem fulfils_of_receive (t : FileTree) (r : Refusal) {outcome : Http.Outcome}
    (order : d.order? = some o) (came : d.outcome? = some outcome) :
    d.Fulfils o ((receive t o outcome r).result.map .installed) ∨
      ∃ b, d.Breaks b ∧ (receive t o outcome r).result.map Reply.installed =
        .error (.breakdown b) := by
  unfold receive
  cases outcome with
  | broken b => exact .inr ⟨b, .broken came, rfl⟩
  | fault reason => exact .inl (.unreachable came)
  | response url response =>
    simp only
    split
    next failed => exact .inl (.refused came (by simpa using failed))
    next success =>
      have success : response.isSuccess := by simpa using success
      split
      next unusable => exact .inr ⟨_, .unfit order (.inl (by simpa using unusable)), rfl⟩
      next =>
        split
        next unusable =>
          split
          next e _ => exact .inl (.unwritten came success e)
          next => exact .inr ⟨_, .unfit order (.inr (by simpa using unusable)), rfl⟩
        next =>
          split
          next e _ => exact .inl (.unwritten came success e)
          next => exact .inl (.installed came success)

theorem answers_of_begun {target : Path} {artifactName url : String} (done : d ∈ ds)
    (action : d.action = .begin id (.install target artifactName (.scalar (.text url))))
    (begun : Begun d.house id target artifactName url (d.house.act d.action))
    (returned : (d.house.act d.action).returned = some (i, reply)) :
    i = id ∧ d.Answers ds id reply := by
  have ordered {o : Order} (order : Install.order d.house.host target artifactName url = .ok o) :
      Ordered ds id o := by
    obtain rfl := order_url order
    exact ⟨d, done, target, artifactName, action, order⟩
  have orders {o : Order} (order : Install.order d.house.host target artifactName url = .ok o) :
      d.order? = some o := by
    simp [order?, action, Value.written, Scalar.written, order, Except.toOption]
  cases begun with
  | noHome unknown _ ends =>
    cases returned.symm.trans ends
    exact ⟨rfl, .inr ⟨_, .noHome action unknown, rfl⟩⟩
  | untold o order code refused _ ends =>
    cases returned.symm.trans ends
    exact ⟨rfl, .inr ⟨_, .untold (orders order) refused, rfl⟩⟩
  | present o order found _ ends =>
    cases returned.symm.trans ends
    exact ⟨rfl, .inl ⟨o, ordered order, .present found⟩⟩
  | missing _ _ _ _ ends => cases returned.symm.trans ends

end Deed

/-- An installation under way ends with what it receives. -/
theorem House.receive_isSome {g : House} {id : CallId} {o : Order} (under : (id, o) ∈ g.installs)
    (asked : List String) (outcome : Http.Outcome) (refusal : Refusal) :
    (g.receive id asked outcome refusal).returned.isSome := by
  unfold receive
  split
  · rename_i found
    exact absurd (beq_self_eq_true id)
      (by simpa using List.lookup_eq_none_iff.mp found (id, o) under)
  · rfl

theorem Deed.answers_of_received {h k g : House} {ds : List Deed} (amid : Amid h ds k)
    (none : h.installs = []) {id i : CallId} {asked : List String} {outcome : Http.Outcome}
    {refusal : Refusal} (done : ⟨g, .received id asked outcome refusal⟩ ∈ ds)
    {reply : Except Trouble Reply}
    (returned : (g.receive id asked outcome refusal).returned = some (i, reply)) :
    i = id ∧ Answers ds ⟨g, .received id asked outcome refusal⟩ id reply := by
  unfold House.receive at returned
  split at returned
  · cases returned
  · rename_i o found
    cases returned
    refine ⟨rfl, ?_⟩
    have under : (id, o) ∈ g.installs := by
      obtain ⟨before, after, split, _⟩ := List.lookup_eq_some_iff.mp found
      rw [split]
      exact List.mem_append_right _ List.mem_cons_self
    have order : order? ⟨g, .received id asked outcome refusal⟩ = some o := found
    rcases fulfils_of_receive g.host.files refusal order rfl with fulfils | breaks
    · obtain ⟨es, before, sub⟩ := amid.of_mem done
      exact .inl ⟨o, (before.ordered none under).mono sub, fulfils⟩
    · exact .inr breaks

/-- An artifact is asked for that the web does not have. -/
def vain : List Action :=
  [.begin 1 (.install (Path.ofString "bin") "t" (.scalar (.text "u"))),
    .received 1 ["u"] (.response "u" { status := 404 }) .none]

/-- A web that has everything. -/
def plenty : Http.Network := fun _ => .response { status := 200 }

/-- The address of an artifact is no address: its host is in brackets and no number of IPv6. -/
def misspelt : List Action :=
  let url := "http://[1::2::3]/"
  [.begin 1 (.install (Path.ofString "bin") "t" (.scalar (.text url))),
    .received 1 (Http.fetch plenty url).1 (Http.fetch plenty url).2 .none]

end ToolHost

import ToolHost.Proofs.Install.Storing
import ToolHost.Proofs.Run

/-!
# Installations in a house

Everything that is done in a house from some time on, in any order, with the trees that its files go
through: those between two actions, and those while an artifact is written. Of every place it can
be said what stands there: what stood there in the beginning, a new directory on the way to the
target of an installation, the draft that is being written, or an artifact as a whole.
-/
namespace ToolHost

open Machine Install

/-- All that was done in a house from a state on, the latest first, and the house now. -/
inductive Since (h : House) : List Deed → House → Prop
  | start : Since h [] h
  | act {ds : List Deed} {k : House} (since : Since h ds k) (a : Action) :
      Since h (⟨k, a⟩ :: ds) (k.act a).house

/-- Actions one after another go on from what was done before. -/
theorem Since.play {h k : House} {ds : List Deed} (since : Since h ds k) (as : List Action) :
    Since h (play ds k as).1 (play ds k as).2 := by
  induction as generalizing ds k with
  | nil => exact since
  | cons a as ih => exact ih (since.act a)

namespace Deed

/-- The order of the installation that begins or goes on. -/
def order? (d : Deed) : Option Order :=
  match d.action with
  | .begin _ (.install target artifactName url) =>
    (Install.order d.house.host target artifactName url.written).toOption
  | .received id _ _ _ => d.house.installs.lookup id
  | _ => none

/-- The order of an installation that ends well. -/
def installed? (d : Deed) : Option Order :=
  match (d.house.act d.action).returned with
  | some (_, .ok (.installed _)) => d.order?
  | _ => none

/-- An artifact that was received with success, and for which order. -/
def body? (d : Deed) : Option (Order × Bytes) :=
  match d.action with
  | .received _ _ (.response _ r) _ => if r.isSuccess then d.order?.map (·, r.body) else none
  | _ => none

end Deed

/-- The orders of all installations. -/
def orders (ds : List Deed) : List Order := ds.filterMap Deed.order?

/-- The orders of the installations that ended well, the latest first. -/
def installed (ds : List Deed) : List Order := ds.filterMap Deed.installed?

/-- What was received with success. -/
def bodies (ds : List Deed) : List (Order × Bytes) := ds.filterMap Deed.body?

namespace Install

variable {t u : FileTree} {o : Order} {content : Bytes} {p : Phase} {q : Path}

/-- Something stands where a path leads. -/
structure Stands (t : FileTree) (q : Path) : Prop where
  usable : isUsable q = true
  found : ∃ x e, t.locate q = .ok (x, some e)

theorem stands_iff : t.exists? q = .ok true ↔ Stands t q := by
  rw [FileTree.exists?]
  constructor
  · intro h
    split at h
    next => cases h
    next hnul =>
      refine ⟨by simpa [isUsable] using hnul, ?_⟩
      rw [FileTree.stat] at h
      cases hlocate : t.locate q with
      | error e =>
        rw [hlocate] at h
        simp only at h
        split at h <;> cases h
      | ok found =>
        obtain ⟨x, entry⟩ := found
        cases entry with
        | some e => exact ⟨x, e, rfl⟩
        | none =>
          rw [hlocate] at h
          simp at h
  · rintro ⟨husable, x, e, hlocate⟩
    rw [if_neg (by simpa [isUsable] using husable), FileTree.stat, hlocate]

theorem place_exists_iff (h : Host) : Config.Place.exists? h q = .ok true ↔ Stands h.files q := by
  rw [← stands_iff, Config.Place.exists?]
  cases h.files.exists? q with
  | error e => simp
  | ok b => simp

theorem stands_of_look {h : Host} (hlook : look h o = .ok .present) : Stands h.files o.path := by
  rw [← place_exists_iff]
  rw [look] at hlook
  cases hexists : Config.Place.exists? h o.path with
  | error e =>
    rw [hexists] at hlook
    cases hlook
  | ok b =>
    rw [hexists] at hlook
    cases b with
    | true => rfl
    | false => cases hlook

/-- What can be found is still found after an artifact was written, or as far as it was. -/
theorem Storing.stands (h : Storing t o content p u) (hq : Stands t q) : Stands u q := by
  obtain ⟨husable, x, e, hlocate⟩ := hq
  have hdirs (y : Machine.Place) (hy : t.at? y = some .dir) : u.at? y = some .dir :=
    h.kept hy fun _ => .inl rfl
  have hx : t.at? x = some e := by
    obtain ⟨rfl, hentry⟩ := FileTree.locate_ok hlocate
    exact hentry.symm
  have hstays : ∃ e, u.at? x = some e := by
    cases h.sight x with
    | same same => exact ⟨e, same.trans hx⟩
    | dir _ dir => exact ⟨_, dir⟩
    | draft _ new =>
      rw [hx] at new
      cases new
    | artifact _ _ _ whole => exact ⟨_, whole⟩
  obtain ⟨e', he'⟩ := hstays
  exact ⟨husable, x, e', he' ▸ FileTree.locate_of_dirs h.cwd hdirs hlocate⟩

/-- What a response does to the files, and how that ends. -/
inductive Received (t : FileTree) (o : Order) (outcome : Http.Outcome) (c : Change) : Prop
  | refused (files : c.files = t) (e : Trouble) (failed : c.result = .error e)
  | unfinished (url : String) (r : Http.Response) (came : outcome = .response url r)
      (success : r.isSuccess = true) (p : Phase) (stopped : p = .making ∨ p = .cleared)
      (storing : Storing t o r.body p c.files) (e : Trouble) (failed : c.result = .error e)
  | finished (url : String) (r : Http.Response) (came : outcome = .response url r)
      (success : r.isSuccess = true) (storing : Storing t o r.body .moved c.files)
      (stands : Stands c.files o.path) (i : Installed) (done : c.result = .ok i)

theorem receive_received (t : FileTree) (o : Order) (outcome : Http.Outcome) (r : Refusal) :
    Received t o outcome (receive t o outcome r) := by
  unfold receive
  cases outcome with
  | broken b => exact .refused rfl _ rfl
  | fault reason => exact .refused rfl _ rfl
  | response url response =>
    simp only
    split
    next => exact .refused rfl _ rfl
    next hfailed =>
      have hsuccess : response.isSuccess = true := by simpa using hfailed
      split
      next => exact .refused rfl _ rfl
      next =>
        split
        next =>
          have hmaking := FileTree.mkdirs_making t o.target
          generalize t.mkdirs o.target = made at hmaking
          obtain ⟨u, failure⟩ := made
          cases failure <;>
            exact .unfinished url response rfl hsuccess .making (.inl rfl) (.making hmaking) _ rfl
        next husable =>
          obtain ⟨p, hstoring, hends⟩ := store_storing t o response.body r
          generalize store t o response.body r = stored at hstoring hends
          obtain ⟨u, failure⟩ := stored
          rcases hends with ⟨rfl, rfl⟩ | ⟨hover, e, rfl⟩
          · exact .finished url response rfl hsuccess hstoring
              ⟨by simpa using husable, _, _, hstoring.moved_exists⟩ _ rfl
          · exact .unfinished url response rfl hsuccess p hover hstoring _ rfl

end Install

namespace Deed

open Install

/-- What an action does to the files, to the location and to the sum of what is installed. -/
inductive Effect (d : Deed) (k : House) : Prop
  /-- Nothing of an installation ends, or one ends with an error. -/
  | idle (host : k.host = d.house.host) (location : k.location = d.house.location)
      (ended : d.installed? = none)
  /-- The artifact is there. -/
  | found (o : Order) (order : d.order? = some o) (host : k.host = d.house.host)
      (location : k.location = o.location) (stands : Stands d.house.host.files o.path)
      (ended : d.installed? = some o)
  | unfinished (o : Order) (order : d.order? = some o) (content : Bytes)
      (body : d.body? = some (o, content)) (p : Phase) (stopped : p = .making ∨ p = .cleared)
      (storing : Storing d.house.host.files o content p k.host.files)
      (location : k.location = d.house.location) (ended : d.installed? = none)
  | finished (o : Order) (order : d.order? = some o) (content : Bytes)
      (body : d.body? = some (o, content))
      (storing : Storing d.house.host.files o content .moved k.host.files)
      (stands : Stands k.host.files o.path) (location : k.location = o.location)
      (ended : d.installed? = some o)

theorem installed?_of_order? {d : Deed} (h : d.order? = none) : d.installed? = none := by
  rw [installed?]
  split
  · exact h
  · rfl

/-- An installation that begins. -/
theorem effect_begin (h : House) (id : CallId) (target : Path) (artifactName : String)
    (url : Value) :
    Effect ⟨h, .begin id (.install target artifactName url)⟩
      (h.act (.begin id (.install target artifactName url))).house := by
  have hact : h.act (.begin id (.install target artifactName url)) =
      h.beginInstall id target artifactName url := rfl
  cases horder : Install.order h.host target artifactName url.written with
  | error b =>
    have hnone : order? ⟨h, .begin id (.install target artifactName url)⟩ = none := by
      simp [order?, horder, Except.toOption]
    have hhouse : (h.beginInstall id target artifactName url).house = h := by
      rw [House.beginInstall, horder]
    rw [hact, hhouse]
    exact .idle rfl rfl (installed?_of_order? hnone)
  | ok o =>
    have ho : order? ⟨h, .begin id (.install target artifactName url)⟩ = some o := by
      simp [order?, horder, Except.toOption]
    cases hlook : Install.look h.host o with
    | error b =>
      have hbegin : h.beginInstall id target artifactName url =
          ⟨h, [], [], some (id, .error (.breakdown b))⟩ := by
        simp only [House.beginInstall, horder, hlook]
      refine .idle ?_ ?_ ?_
      · rw [hact, hbegin]
      · rw [hact, hbegin]
      · rw [installed?, hact, hbegin]
    | ok finding =>
      cases finding with
      | present =>
        have hbegin : h.beginInstall id target artifactName url =
            ⟨{ h.say (.present o.path.text) with location := o.location }, [], [],
              some (id, .ok (.installed ⟨o.path, none⟩))⟩ := by
          simp only [House.beginInstall, horder, hlook]
        refine .found o ho ?_ ?_ (stands_of_look hlook) ?_
        · rw [hact, hbegin]
          rfl
        · rw [hact, hbegin]
        · rw [installed?, hact, hbegin]
          exact ho
      | missing =>
        refine .idle ?_ ?_ ?_
        · rw [hact, House.beginInstall]
          simp only [horder, hlook]
          split <;> rfl
        · rw [hact, House.beginInstall]
          simp only [horder, hlook]
          split <;> rfl
        · rw [installed?, hact, House.beginInstall]
          simp only [horder, hlook]
          split
          next heq =>
            split at heq <;> cases heq
          next => rfl

/-- An installation that goes on with what was received. -/
theorem effect_received (h : House) (id : CallId) (asked : List String) (outcome : Http.Outcome)
    (refusal : Refusal) :
    Effect ⟨h, .received id asked outcome refusal⟩
      (h.act (.received id asked outcome refusal)).house := by
  have hact : h.act (.received id asked outcome refusal) = h.receive id asked outcome refusal := rfl
  cases hlookup : h.installs.lookup id with
  | none =>
    have hhouse : (h.receive id asked outcome refusal).house = h := by
      simp only [House.receive, hlookup]
    rw [hact, hhouse]
    exact .idle rfl rfl (installed?_of_order? hlookup)
  | some o =>
    have ho : order? ⟨h, .received id asked outcome refusal⟩ = some o := hlookup
    have hreceived := receive_received h.host.files o outcome refusal
    have hfiles : (h.receive id asked outcome refusal).house.host =
        { h.host with files := (Install.receive h.host.files o outcome refusal).files } := by
      simp only [House.receive, hlookup]
    have kept {e : Trouble} (failed : (Install.receive h.host.files o outcome refusal).result =
        .error e) : (h.receive id asked outcome refusal).house.location = h.location := by
      simp only [House.receive, hlookup, failed]
    have located {i : Installed} (done : (Install.receive h.host.files o outcome refusal).result =
        .ok i) : (h.receive id asked outcome refusal).house.location = o.location := by
      simp only [House.receive, hlookup, done]
    have hreturned : (h.receive id asked outcome refusal).returned =
        some (id, (Install.receive h.host.files o outcome refusal).result.map .installed) := by
      simp only [House.receive, hlookup]
    generalize Install.receive h.host.files o outcome refusal = c at *
    cases hreceived with
    | refused files e failed =>
      rw [failed] at hreturned
      refine .idle ?_ (kept failed) ?_
      · rw [hact, hfiles, files]
      · rw [installed?, hact, hreturned]
        rfl
    | unfinished url r came success p stopped storing e failed =>
      subst came
      rw [failed] at hreturned
      refine .unfinished o ho r.body ?_ p stopped ?_ (kept failed) ?_
      · simp [body?, success, ho]
      · rw [hact, hfiles]
        exact storing
      · rw [installed?, hact, hreturned]
        rfl
    | finished url r came success storing stands i done =>
      subst came
      rw [done] at hreturned
      refine .finished o ho r.body ?_ ?_ ?_ (located done) ?_
      · simp [body?, success, ho]
      · rw [hact, hfiles]
        exact storing
      · rw [hact, hfiles]
        exact stands
      · rw [installed?, hact, hreturned]
        exact ho

theorem effect_act (h : House) (a : Action) : Effect ⟨h, a⟩ (h.act a).house := by
  cases a with
  | room name b => exact .idle rfl rfl (installed?_of_order? rfl)
  | shot b => exact .idle rfl rfl (installed?_of_order? rfl)
  | received id asked outcome refusal => exact effect_received h id asked outcome refusal
  | begin id call =>
    cases call with
    | install target artifactName url => exact effect_begin h id target artifactName url
    | session name request => exact .idle rfl rfl (installed?_of_order? rfl)
    | oneShot artifact dir text => exact .idle rfl rfl (installed?_of_order? rfl)
    | awaitOneShots => exact .idle rfl rfl (installed?_of_order? rfl)

end Deed

/-! ## What stands at a place -/

variable {h k : House} {ds : List Deed} {d : Deed} {u : FileTree} {x : Machine.Place}
  {draft : Option (Order × Machine.Place)} {o : Order}

/-- A tree that the files go through, with the draft that is being written and its order: the files
between two actions, or while an artifact is written. -/
inductive Moment (h : House) : List Deed → FileTree → Option (Order × Machine.Place) → Prop
  | between {ds : List Deed} {k : House} (since : Since h ds k) : Moment h ds k.host.files none
  | within {ds : List Deed} {k : House} (since : Since h ds k) (a : Action) {o : Order}
      {content : Bytes} (body : (⟨k, a⟩ : Deed).body? = some (o, content)) {p : Phase}
      {u : FileTree} (storing : Storing k.host.files o content p u) :
      Moment h (⟨k, a⟩ :: ds) u (p.draft?.map (o, ·))

/-- What stands at a place at some moment, where `t` is the tree of the beginning. -/
inductive Traced (t : FileTree) (ds : List Deed) (u : FileTree)
    (draft : Option (Order × Machine.Place)) (x : Machine.Place) : Prop
  | same (same : u.at? x = t.at? x)
  | dir (new : t.at? x = none) (dir : u.at? x = some .dir) (o : Order) (order : o ∈ orders ds)
      (q : Path) (onWay : q.LeadsTo o.target) (place : x = t.place q)
  | draft (o : Order) (order : o ∈ orders ds) (drafting : draft = some (o, x))
      (new : t.at? x = none)
  | artifact (o : Order) (content : Bytes) (body : (o, content) ∈ bodies ds)
      (order : o ∈ orders ds) (place : x = o.place t) (noDir : t.at? x ≠ some .dir)
      (whole : u.at? x = some (.file content))

theorem mem_orders (h : d.order? = some o) : o ∈ orders (d :: ds) :=
  List.mem_filterMap.mpr ⟨d, List.mem_cons_self, h⟩

theorem orders_subset (d : Deed) (ds : List Deed) : orders ds ⊆ orders (d :: ds) :=
  List.filterMap_subset _ (List.subset_cons_self d ds)

theorem bodies_subset (d : Deed) (ds : List Deed) : bodies ds ⊆ bodies (d :: ds) :=
  List.filterMap_subset _ (List.subset_cons_self d ds)

theorem Deed.order?_of_body? {content : Bytes} (h : d.body? = some (o, content)) :
    d.order? = some o := by
  rw [body?] at h
  split at h
  next =>
    split at h
    next =>
      obtain ⟨o', ho, heq⟩ := Option.map_eq_some_iff.mp h
      exact ho.trans (congrArg some (Prod.mk.inj heq).1)
    next => cases h
  next => cases h

theorem Traced.later {t : FileTree} (s : Traced t ds u none x) (d : Deed) :
    Traced t (d :: ds) u none x := by
  cases s with
  | same same => exact .same same
  | dir new dir o order q onWay place =>
    exact .dir new dir o (orders_subset d ds order) q onWay place
  | draft o order drafting new => cases drafting
  | artifact o content body order place noDir whole =>
    exact .artifact o content (bodies_subset d ds body) (orders_subset d ds order) place noDir whole

/-- Between two actions something stands where something stood in the beginning. -/
theorem Traced.none_of_none {t : FileTree} (s : Traced t ds u none x) (hx : u.at? x = none) :
    t.at? x = none := by
  cases s with
  | same same => exact same ▸ hx
  | dir new => exact new
  | draft o order drafting => cases drafting
  | artifact o content body order place noDir whole =>
    rw [whole] at hx
    cases hx

theorem Traced.noDir_of_noDir {t : FileTree} (s : Traced t ds u none x) (hx : u.at? x ≠ some .dir) :
    t.at? x ≠ some .dir := by
  cases s with
  | same same => exact same ▸ hx
  | dir new dir => exact absurd dir hx
  | draft o order drafting => cases drafting
  | artifact o content body order place noDir whole => exact noDir

/-- While an artifact is written what stands at a place is what stood there before, or new. -/
theorem Traced.storing {t v : FileTree} (s : Traced t ds v none x) (cwd : v.cwd = t.cwd)
    {content : Bytes} (body : d.body? = some (o, content)) {p : Phase}
    (storing : Storing v o content p u) :
    Traced t (d :: ds) u (p.draft?.map (o, ·)) x := by
  have horder : o ∈ orders (d :: ds) := mem_orders (Deed.order?_of_body? body)
  cases storing.sight x with
  | same same =>
    cases s with
    | same before => exact .same (same.trans before)
    | dir new dir o' order q onWay place =>
      exact .dir new (same.trans dir) o' (orders_subset d ds order) q onWay place
    | draft o' order drafting => cases drafting
    | artifact o' content' body' order place noDir whole =>
      exact .artifact o' content' (bodies_subset d ds body') (orders_subset d ds order) place noDir
        (same.trans whole)
  | dir new dir q onWay place =>
    exact .dir (s.none_of_none new) dir o horder q onWay
      (place.trans (FileTree.place_congr cwd q))
  | draft drafting new =>
    subst drafting
    exact .draft o horder rfl (s.none_of_none new)
  | artifact moved place noDir whole =>
    exact .artifact o content (List.mem_filterMap.mpr ⟨d, List.mem_cons_self, body⟩) horder
      (place.trans (FileTree.place_congr cwd _)) (s.noDir_of_noDir noDir) whole

theorem Install.Phase.draft?_of_stopped {p : Phase} (h : p = .making ∨ p = .cleared) :
    p.draft? = none := by
  rcases h with rfl | rfl <;> rfl

/-- What stands where between two actions. -/
theorem Since.seen (s : Since h ds k) :
    k.host.files.cwd = h.host.files.cwd ∧
      ∀ x, Traced h.host.files ds k.host.files none x := by
  induction s with
  | start => exact ⟨rfl, fun x => .same rfl⟩
  | @act ds k _ a ih =>
    obtain ⟨hcwd, hseen⟩ := ih
    have heffect := Deed.effect_act k a
    cases heffect with
    | idle host =>
      rw [host]
      exact ⟨hcwd, fun x => (hseen x).later _⟩
    | found o order host =>
      rw [host]
      exact ⟨hcwd, fun x => (hseen x).later _⟩
    | unfinished o order content body p stopped storing =>
      refine ⟨storing.cwd.trans hcwd, fun x => ?_⟩
      have hx := (hseen x).storing hcwd body storing
      rwa [Install.Phase.draft?_of_stopped stopped] at hx
    | finished o order content body storing =>
      exact ⟨storing.cwd.trans hcwd, fun x => (hseen x).storing hcwd body storing⟩

theorem Since.of_mem (s : Since h ds k) (hd : d ∈ ds) : ∃ es, Since h es d.house := by
  induction s with
  | start => cases hd
  | @act ds k s a ih =>
    rcases List.mem_cons.mp hd with rfl | hd
    · exact ⟨ds, s⟩
    · exact ih hd

/-- What stands where at any moment. -/
theorem Moment.seen (m : Moment h ds u draft) (x : Machine.Place) :
    Traced h.host.files ds u draft x := by
  cases m with
  | between since => exact since.seen.2 x
  | within since a body storing => exact (since.seen.2 x).storing since.seen.1 body storing

/-- The location is that of the last installation that ended well, and what was installed is
there. -/
theorem Since.location (s : Since h ds k) :
    k.location = (installed ds).head?.elim h.location Order.location ∧
      ∀ o ∈ installed ds, Stands k.host.files o.path := by
  induction s with
  | start => exact ⟨rfl, by simp [installed]⟩
  | @act ds k _ a ih =>
    obtain ⟨hlocation, hstands⟩ := ih
    rw [installed, List.filterMap_cons]
    cases Deed.effect_act k a with
    | idle host location ended =>
      rw [ended, host, location]
      exact ⟨hlocation, hstands⟩
    | found o order host location stands ended =>
      rw [ended, host, location]
      refine ⟨rfl, fun o' ho' => ?_⟩
      rcases List.mem_cons.mp ho' with rfl | ho'
      · exact stands
      · exact hstands o' ho'
    | unfinished o order content body p stopped storing location ended =>
      rw [ended, location]
      exact ⟨hlocation, fun o' ho' => storing.stands (hstands o' ho')⟩
    | finished o order content body storing stands location ended =>
      rw [ended, location]
      refine ⟨rfl, fun o' ho' => ?_⟩
      rcases List.mem_cons.mp ho' with rfl | ho'
      · exact stands
      · exact storing.stands (hstands o' ho')

end ToolHost

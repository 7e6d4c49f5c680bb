import ToolHost.Proofs.Install.Reading

/-!
# An artifact that is fetched once

Any number of calls want an artifact at one path, one after another or at once, and any of them may
fail. Unless two of them receive it at once, and unless a file is in its place that its path does
not lead to yet, it is fetched once at most: what can be read at the path stays as it is, and a call
that begins when something is there has its answer without a request.
-/
namespace ToolHost

open Machine Install

variable {h j k : House} {ds es : List Deed} {d : Deed} {id : CallId} {p : Path}

namespace Deed

/-- The call of an installation that begins. -/
def asker? (d : Deed) : Option CallId :=
  match d.action with
  | .begin id (.install _ _ _) => some id
  | _ => none

/-- The call whose requests are sent and answered. -/
def sender? (d : Deed) : Option CallId :=
  match d.action with
  | .received id _ _ _ => (d.house.installs.lookup id).map fun _ => id
  | _ => none

/-- The call that ends with an artifact that it has fetched. -/
def fetched? (d : Deed) : Option CallId :=
  match (d.house.act d.action).returned with
  | some (id, .ok (.installed i)) => if i.size.isSome then some id else none
  | _ => none

/-- A call that was under way when another one had fetched the artifact receives it as well. -/
def Races (later earlier : Deed) : Prop :=
  earlier.fetched?.isSome ∧ later.body?.isSome ∧
    ∃ x ∈ (earlier.house.act earlier.action).house.installs, later.sender? = some x.1

instance (later earlier : Deed) : Decidable (later.Races earlier) :=
  inferInstanceAs (Decidable (_ ∧ _ ∧ _))

end Deed

/-- The calls that ended with an artifact that they have fetched. -/
def fetchers (ds : List Deed) : List CallId := ds.filterMap Deed.fetched?

/-- All installations are for one path, each under a name of its own, and none was under way
before. -/
structure OnePath (h : House) (ds : List Deed) (p : Path) : Prop where
  idle : h.installs = []
  path : ∀ o ∈ orders ds, o.path = p
  own : (ds.filterMap Deed.asker?).Nodup

/-- No two calls receive the artifact at once, and a file in its place can be found by its path. -/
structure Undisputed (h : House) (ds : List Deed) (p : Path) : Prop where
  alone : ds.Pairwise fun later earlier => ¬ later.Races earlier
  clear : ∀ c, h.host.files.at? (h.host.files.place p) = some (.file c) →
    Config.Place.exists? h.host p = .ok true

/-! ## What an action does -/

theorem look_of_stands {o : Order} (stands : Stands k.host.files o.path) :
    look k.host o = .ok .present := by
  rw [look, (place_exists_iff k.host).mpr stands]
  rfl

namespace House

/-- What becomes of an installation that begins: it ends at once, with nothing fetched, or it is
under way, and nothing stands at its path. -/
inductive Begins (k : House) (id : CallId) (target : Path) (artifactName : String) (url : Value)
    (out : Outcome) : Prop
  | ends (host : out.house.host = k.host) (installs : out.house.installs = k.installs)
      (unfetched : ∀ i s, out.returned = some (i, .ok (.installed s)) → s.size = none)
  | waits (o : Order) (order : Install.order k.host target artifactName url.written = .ok o)
      (missing : look k.host o = .ok .missing) (host : out.house.host = k.host)
      (installs : out.house.installs = k.installs ++ [(id, o)]) (returned : out.returned = none)

theorem beginInstall_begins (k : House) (id : CallId) (target : Path) (artifactName : String)
    (url : Value) :
    Begins k id target artifactName url (k.beginInstall id target artifactName url) := by
  rw [beginInstall]
  cases order : Install.order k.host target artifactName url.written with
  | error b => exact .ends rfl rfl (by simp)
  | ok o =>
    simp only
    cases found : look k.host o with
    | error b => exact .ends rfl rfl (by simp)
    | ok finding =>
      cases finding with
      | present => exact .ends rfl rfl (by simp)
      | missing =>
        simp only
        split
        · exact .waits o order found rfl rfl rfl
        · exact .ends rfl rfl (by simp)

/-- No session brings an artifact. -/
theorem actRoom_returned (k : House) (name : SessionName) (a : Session.Action) (i : Installed) :
    (k.actRoom name a).returned ≠ some (id, .ok (.installed i)) := by
  intro returned
  obtain ⟨⟨_, e⟩, -, same⟩ := Option.map_eq_some_iff.mp returned
  cases e <;> simp [replyOfRoom] at same

/-- No one-shot command brings one. -/
theorem actShot_returned (k : House) (a : OneShot.Action) (i : Installed) :
    (k.actShot a).returned ≠ some (id, .ok (.installed i)) := by
  intro returned
  obtain ⟨⟨_, e⟩, -, same⟩ := Option.map_eq_some_iff.mp returned
  cases e <;> simp [replyOfShot] at same

end House

namespace Deed

theorem fetched?_eq_none (unfetched : ∀ i s,
    (d.house.act d.action).returned = some (i, .ok (.installed s)) → s.size = none) :
    d.fetched? = none := by
  rw [fetched?]
  split
  next i s returned => simp [unfetched i s returned]
  next => rfl

theorem order?_begin {target : Path} {artifactName : String} {url : Value} {o : Order} :
    order? ⟨k, .begin id (.install target artifactName url)⟩ = some o ↔
      Install.order k.host target artifactName url.written = .ok o := by
  simp only [order?]
  cases Install.order k.host target artifactName url.written <;> simp [Except.toOption]

/-- A call that begins when something is there has its answer. -/
theorem begin_of_stands {target : Path} {artifactName : String} {url : Value} {o : Order}
    (order : order? ⟨k, .begin id (.install target artifactName url)⟩ = some o)
    (stands : Stands k.host.files o.path) :
    (k.act (.begin id (.install target artifactName url))).returned =
      some (id, .ok (.installed ⟨o.path, none⟩)) := by
  change (k.beginInstall id target artifactName url).returned = _
  rw [House.beginInstall, order?_begin.mp order]
  simp only [look_of_stands stands]

/-- What is under way afterwards was under way, or it began without an answer, and nothing stood at
its path. -/
theorem installs_act {x : CallId × Order} (mem : x ∈ (d.house.act d.action).house.installs) :
    x ∈ d.house.installs ∨ d.asker? = some x.1 ∧ (d.house.act d.action).returned = none ∧
      ∃ o, d.order? = some o ∧ ¬ Stands d.house.host.files o.path := by
  obtain ⟨g, a⟩ := d
  cases a with
  | room name b => exact .inl mem
  | shot b => exact .inl mem
  | received i asked outcome refusal =>
    change x ∈ (g.receive i asked outcome refusal).house.installs at mem
    rw [House.receive] at mem
    split at mem
    · exact .inl mem
    · exact .inl (List.mem_filter.mp mem).1
  | begin i call =>
    cases call with
    | session name request => exact .inl mem
    | oneShot artifact dir text => exact .inl mem
    | awaitOneShots => exact .inl mem
    | install target artifactName url =>
      have begins := g.beginInstall_begins i target artifactName url
      cases begins with
      | ends _ installs => exact .inl (installs ▸ mem)
      | waits o order missing _ installs returned =>
        have mem : x ∈ g.installs ++ [(i, o)] := installs ▸ mem
        rw [List.mem_append, List.mem_singleton] at mem
        refine mem.imp_right fun same => ?_
        subst same
        refine ⟨rfl, returned, o, order?_begin.mpr order, fun stands => ?_⟩
        rw [look_of_stands stands] at missing
        cases missing

/-- What an action does to the files, and whether it brings the artifact. -/
inductive Fetching (d : Deed) : Prop
  | idle (files : (d.house.act d.action).house.host.files = d.house.host.files)
      (unfetched : d.fetched? = none)
  | unfinished (o : Order) (order : d.order? = some o) (content : Bytes)
      (body : d.body? = some (o, content)) (phase : Phase)
      (stopped : phase = .making ∨ phase = .cleared)
      (storing : Storing d.house.host.files o content phase
        (d.house.act d.action).house.host.files)
      (unfetched : d.fetched? = none)
  | finished (o : Order) (order : d.order? = some o) (content : Bytes)
      (body : d.body? = some (o, content))
      (stands : Stands (d.house.act d.action).house.host.files o.path)
      (fetched : d.fetched?.isSome = true)

theorem fetching_received (k : House) (id : CallId) (asked : List String) (outcome : Http.Outcome)
    (refusal : Refusal) : Fetching ⟨k, .received id asked outcome refusal⟩ := by
  let d : Deed := ⟨k, .received id asked outcome refusal⟩
  have act : d.house.act d.action = k.receive id asked outcome refusal := rfl
  cases under : k.installs.lookup id with
  | none =>
    have idle : d.house.act d.action = { house := k } := by
      rw [act, House.receive, under]
    exact .idle (by rw [idle]) (fetched?_eq_none fun i s h => by rw [idle] at h; cases h)
  | some o =>
    have order : d.order? = some o := under
    have files : (d.house.act d.action).house.host.files =
        (receive k.host.files o outcome refusal).files := by
      rw [act, House.receive, under]
    have returned : (d.house.act d.action).returned =
        some (id, (receive k.host.files o outcome refusal).result.map .installed) := by
      rw [act, House.receive, under]
    have size {i : Installed} (done : (receive k.host.files o outcome refusal).result = .ok i) :
        i.size.isSome = true := receive_size done
    have received := receive_received k.host.files o outcome refusal
    generalize receive k.host.files o outcome refusal = c at *
    have failed {e : Trouble} (failed : c.result = .error e) : d.fetched? = none := by
      refine fetched?_eq_none fun i s h => ?_
      rw [returned, failed] at h
      cases h
    cases received with
    | refused same e error => exact .idle (files.trans same) (failed error)
    | unfinished url r came success phase stopped storing e error =>
      subst came
      exact .unfinished o order r.body (by simp [body?, success, order, d]) phase stopped
        (files ▸ storing) (failed error)
    | finished url r came success storing stands i done =>
      subst came
      refine .finished o order r.body (by simp [body?, success, order, d]) (files ▸ stands) ?_
      change d.fetched?.isSome = true
      rw [fetched?, returned, done]
      simp [Except.map, size done]

theorem fetching (d : Deed) : Fetching d := by
  obtain ⟨g, a⟩ := d
  cases a with
  | room name b =>
    exact .idle rfl (fetched?_eq_none fun i s h => absurd h (g.actRoom_returned _ _ _))
  | shot b => exact .idle rfl (fetched?_eq_none fun i s h => absurd h (g.actShot_returned _ _))
  | received i asked outcome refusal => exact fetching_received g i asked outcome refusal
  | begin i call =>
    cases call with
    | session name request =>
      exact .idle rfl (fetched?_eq_none fun i s h => absurd h (g.actRoom_returned _ _ _))
    | oneShot artifact dir text =>
      exact .idle rfl (fetched?_eq_none fun i s h => absurd h (g.actShot_returned _ _))
    | awaitOneShots =>
      exact .idle rfl (fetched?_eq_none fun i s h => absurd h (g.actShot_returned _ _))
    | install target artifactName url =>
      have begins := g.beginInstall_begins i target artifactName url
      cases begins with
      | ends host _ unfetched => exact .idle (congrArg Host.files host) (fetched?_eq_none unfetched)
      | waits _ _ _ host _ returned =>
        refine .idle (congrArg Host.files host) (fetched?_eq_none fun i s h => ?_)
        cases returned.symm.trans h

/-- What is received with success is received by a call under way. -/
theorem sender?_of_body? {x : Order × Bytes} (body : d.body? = some x) :
    ∃ y ∈ d.house.installs, d.sender? = some y.1 := by
  have order := order?_of_body? body
  obtain ⟨g, a⟩ := d
  cases a with
  | room name b => cases body
  | shot b => cases body
  | begin i call => cases body
  | received i asked outcome refusal =>
    have under : g.installs.lookup i = some x.1 := order
    obtain ⟨before, after, split, -⟩ := List.lookup_eq_some_iff.mp under
    refine ⟨(i, x.1), ?_, ?_⟩
    · change (i, x.1) ∈ g.installs
      simp [split]
    · simp [sender?, under]

end Deed

/-! ## How far the calls have come -/

/-- Either nobody has fetched the artifact and there is no file in its place, or something stands
there and whoever is under way was so when the artifact was fetched. -/
inductive Attained (p : Path) (ds : List Deed) (k : House) : Prop
  | missing (noFile : ∀ c, k.host.files.at? (k.host.files.place p) ≠ some (.file c))
      (unfetched : fetchers ds = [])
  | there (stands : Stands k.host.files p)
      (under : ∀ x ∈ k.installs, ∃ d ∈ ds, d.fetched?.isSome = true ∧
        x ∈ (d.house.act d.action).house.installs)
      (once : (fetchers ds).length ≤ 1)

theorem OnePath.earlier (one : OnePath h ds p) (earlier : es <:+ ds) : OnePath h es p where
  idle := one.idle
  path o ho := one.path o (List.filterMap_subset _ earlier.subset ho)
  own := one.own.sublist (earlier.sublist.filterMap _)

theorem Undisputed.earlier (fair : Undisputed h ds p) (earlier : es <:+ ds) : Undisputed h es p :=
  ⟨fair.alone.sublist earlier.sublist, fair.clear⟩

namespace Attained

/-- When something stands at the path, what comes is received by nobody. -/
theorem body?_of_there (alone : (d :: ds).Pairwise fun later earlier => ¬ later.Races earlier)
    (under : ∀ x ∈ d.house.installs, ∃ e ∈ ds, e.fetched?.isSome = true ∧
      x ∈ (e.house.act e.action).house.installs) : d.body? = none := by
  cases body : d.body? with
  | none => rfl
  | some b =>
    obtain ⟨x, hx, sender⟩ := Deed.sender?_of_body? body
    obtain ⟨e, he, fetched, after⟩ := under x hx
    refine absurd ?_ ((List.pairwise_cons.mp alone).1 e he)
    exact ⟨fetched, by simp [body], x, after, sender⟩

theorem next (attained : Attained p ds d.house) (path : ∀ o, d.order? = some o → o.path = p)
    (alone : (d :: ds).Pairwise fun later earlier => ¬ later.Races earlier) :
    Attained p (d :: ds) (d.house.act d.action).house := by
  have fetchers_cons (unfetched : d.fetched? = none) : fetchers (d :: ds) = fetchers ds := by
    simp [fetchers, unfetched]
  cases attained with
  | missing noFile unfetched =>
    cases d.fetching with
    | idle files none => exact .missing (files ▸ noFile) ((fetchers_cons none).trans unfetched)
    | unfinished o order content body phase stopped storing none =>
      refine .missing (fun c => ?_) ((fetchers_cons none).trans unfetched)
      rw [FileTree.place_congr storing.cwd]
      cases storing.sight (d.house.host.files.place p) with
      | same same => exact same ▸ noFile c
      | dir _ dir => simp [dir]
      | draft drafting => rcases stopped with rfl | rfl <;> cases drafting
      | artifact moved => rcases stopped with rfl | rfl <;> cases moved
    | finished o order content body stands fetched =>
      refine .there (path o order ▸ stands) (fun x hx => ⟨d, List.mem_cons_self, fetched, hx⟩) ?_
      obtain ⟨id, fetched⟩ := Option.isSome_iff_exists.mp fetched
      have first : fetchers (d :: ds) = id :: fetchers ds := by simp [fetchers, fetched]
      rw [first, unfetched]
      rfl
  | there stands under once =>
    have none := body?_of_there alone under
    have installs : ∀ x ∈ (d.house.act d.action).house.installs, x ∈ d.house.installs := by
      intro x hx
      obtain before | ⟨-, -, o, order, gone⟩ := Deed.installs_act hx
      · exact before
      · exact absurd (path o order ▸ stands) gone
    have under : ∀ x ∈ (d.house.act d.action).house.installs, ∃ e ∈ d :: ds,
        e.fetched?.isSome = true ∧ x ∈ (e.house.act e.action).house.installs := by
      intro x hx
      obtain ⟨e, he, rest⟩ := under x (installs x hx)
      exact ⟨e, List.mem_cons_of_mem d he, rest⟩
    cases d.fetching with
    | idle files unfetched =>
      exact .there (files ▸ stands) under (fetchers_cons unfetched ▸ once)
    | unfinished _ _ _ body => cases none.symm.trans body
    | finished _ _ _ body => cases none.symm.trans body

/-- No action changes what can be read at the path. -/
theorem read_act (attained : Attained p ds d.house)
    (alone : (d :: ds).Pairwise fun later earlier => ¬ later.Races earlier) {c : Bytes}
    (read : d.house.host.files.read p = .ok c) :
    (d.house.act d.action).house.host.files.read p = .ok c := by
  cases attained with
  | missing noFile =>
    exact absurd (FileTree.locate_ok (FileTree.read_ok.mp read)).2.symm (noFile c)
  | there _ under =>
    have none := body?_of_there alone under
    cases d.fetching with
    | idle files => rwa [files]
    | unfinished _ _ _ body => cases none.symm.trans body
    | finished _ _ _ body => cases none.symm.trans body

/-- While an artifact is written, nothing else can be read at its path than before, until it is
moved over. -/
theorem read_storing {o : Order} {content c : Bytes} {phase : Phase} {u : FileTree}
    (attained : Attained o.path ds d.house)
    (alone : (d :: ds).Pairwise fun later earlier => ¬ later.Races earlier)
    (body : d.body? = some (o, content)) (storing : Storing d.house.host.files o content phase u)
    (unmoved : phase ≠ .moved) :
    u.read o.path = .ok c ↔ d.house.host.files.read o.path = .ok c := by
  refine ⟨fun read => ?_, storing.read_kept unmoved⟩
  cases attained with
  | missing noFile => exact absurd (storing.file_of_read unmoved read) (noFile c)
  | there _ under => cases (body?_of_there alone under).symm.trans body

end Attained

namespace Since

theorem attained (since : Since h ds k) (one : OnePath h ds p) (fair : Undisputed h ds p) :
    Attained p ds k := by
  induction since with
  | start =>
    by_cases there : Config.Place.exists? h.host p = .ok true
    · exact .there ((place_exists_iff _).mp there) (by simp [one.idle]) (Nat.zero_le 1)
    · exact .missing (fun c file => there (fair.clear c file)) rfl
  | @act ds k _ a ih =>
    have rest := List.suffix_cons (⟨k, a⟩ : Deed) ds
    have attained := ih (one.earlier rest) (fair.earlier rest)
    exact attained.next (fun o order => one.path o (mem_orders order)) fair.alone

/-- What was done before something that was done. -/
theorem before (since : Since h ds k) (done : d ∈ ds) :
    ∃ es, Since h es d.house ∧ d :: es <:+ ds := by
  induction since with
  | start => cases done
  | @act ds k since a ih =>
    rcases List.mem_cons.mp done with rfl | done
    · exact ⟨ds, since, List.suffix_rfl⟩
    · obtain ⟨es, before, earlier⟩ := ih done
      exact ⟨es, before, earlier.trans (List.suffix_cons _ _)⟩

theorem unique (since : Since h es j) (also : Since h es k) : j = k := by
  cases since with
  | start =>
    cases also
    rfl
  | act =>
    cases also
    rfl

/-- Once something can be read at the path, it can always be read. -/
theorem read (since : Since h ds k) (one : OnePath h ds p) (fair : Undisputed h ds p)
    (earlier : es <:+ ds) (then_ : Since h es j) {c : Bytes}
    (read : j.host.files.read p = .ok c) : k.host.files.read p = .ok c := by
  induction since with
  | start =>
    obtain rfl := List.suffix_nil.mp earlier
    cases then_
    exact read
  | @act ds k since a ih =>
    rcases List.suffix_cons_iff.mp earlier with rfl | earlier
    · exact then_.unique (since.act a) ▸ read
    · have rest := List.suffix_cons (⟨k, a⟩ : Deed) ds
      have before := ih (one.earlier rest) (fair.earlier rest) earlier
      have attained := since.attained (one.earlier rest) (fair.earlier rest)
      exact attained.read_act fair.alone before

/-- Whoever is under way began and had no answer. -/
theorem begun (since : Since h ds k) (idle : h.installs = []) {x : CallId × Order}
    (under : x ∈ k.installs) :
    ∃ d ∈ ds, d.asker? = some x.1 ∧ (d.house.act d.action).returned = none := by
  induction since with
  | start =>
    rw [idle] at under
    cases under
  | @act ds k _ a ih =>
    obtain before | ⟨asker, returned, -⟩ := Deed.installs_act (d := ⟨k, a⟩) under
    · obtain ⟨d, done, rest⟩ := ih before
      exact ⟨d, List.mem_cons_of_mem _ done, rest⟩
    · exact ⟨_, List.mem_cons_self, asker, returned⟩

end Since

/-- No name is given to two calls. -/
theorem OnePath.eq_of_asker? (one : OnePath h ds p) {e : Deed} (hd : d ∈ ds) (he : e ∈ ds)
    (asks : d.asker? = some id) (also : e.asker? = some id) : d = e := by
  by_contra ne
  have apart : ds.Pairwise fun d e => ∀ i, d.asker? = some i → e.asker? ≠ some i := by
    refine (List.pairwise_filterMap.mp one.own).imp fun {a b} distinct i ha hb => ?_
    exact distinct i ha i hb rfl
  have symm : Std.Symm fun d e : Deed => ∀ i, d.asker? = some i → e.asker? ≠ some i :=
    ⟨fun _ _ distinct i hb ha => distinct i ha hb⟩
  exact apart.forall hd he ne id asks also

theorem Deed.under_of_sender? (sends : d.sender? = some id) : ∃ x ∈ d.house.installs, x.1 = id := by
  obtain ⟨g, a⟩ := d
  cases a with
  | room name b => cases sends
  | shot b => cases sends
  | begin i call => cases sends
  | received i asked outcome refusal =>
    obtain ⟨o, under, rfl⟩ := Option.map_eq_some_iff.mp sends
    obtain ⟨before, after, split, -⟩ := List.lookup_eq_some_iff.mp under
    have split : g.installs = before ++ (i, o) :: after := split
    exact ⟨(i, o), by simp [split], rfl⟩

/-- A call that begins when something is there has its answer and sends nothing. -/
theorem OnePath.answered (one : OnePath h ds p) (since : Since h ds k) (done : d ∈ ds) {o : Order}
    (asks : d.asker? = some id) (order : d.order? = some o)
    (there : Config.Place.exists? d.house.host p = .ok true) :
    (d.house.act d.action).returned = some (id, .ok (.installed ⟨p, none⟩)) ∧
      ∀ e ∈ ds, e.sender? ≠ some id := by
  have path : o.path = p := one.path o (List.mem_filterMap.mpr ⟨d, done, order⟩)
  have stands : Stands d.house.host.files o.path := path ▸ (place_exists_iff _).mp there
  have answer : (d.house.act d.action).returned = some (id, .ok (.installed ⟨o.path, none⟩)) := by
    obtain ⟨g, a⟩ := d
    unfold Deed.asker? at asks
    split at asks
    next i target artifactName url action =>
      cases action
      cases asks
      exact Deed.begin_of_stands order stands
    next => cases asks
  refine ⟨path ▸ answer, fun e he sends => ?_⟩
  obtain ⟨x, under, rfl⟩ := Deed.under_of_sender? sends
  obtain ⟨es, before, earlier⟩ := since.before he
  obtain ⟨b, hb, begun, unanswered⟩ := before.begun one.idle under
  have hb : b ∈ ds := earlier.subset (List.mem_cons_of_mem _ hb)
  obtain rfl := one.eq_of_asker? done hb asks begun
  cases answer.symm.trans unanswered

/-- **An artifact is fetched once.** Whatever calls for one path do in whatever order, and whatever
the web and the system answer: what can once be read at the path can always be read there, also
while an artifact is being written; one call at most ends with an artifact that it has fetched; and
a call that begins when something is there has its answer at once and sends nothing. -/
theorem fetched_once (since : Since h ds k) (one : OnePath h ds p) (fair : Undisputed h ds p) :
    (∀ es j, es <:+ ds → Since h es j →
      ∀ c, j.host.files.read p = .ok c → k.host.files.read p = .ok c) ∧
    (∀ d ∈ ds, ∀ o content, d.body? = some (o, content) → ∀ phase u,
      Storing d.house.host.files o content phase u → phase ≠ .moved →
        ∀ c, u.read p = .ok c ↔ d.house.host.files.read p = .ok c) ∧
    (fetchers ds).length ≤ 1 ∧
    ∀ d ∈ ds, ∀ id o, d.asker? = some id → d.order? = some o →
      Config.Place.exists? d.house.host p = .ok true →
        (d.house.act d.action).returned = some (id, .ok (.installed ⟨p, none⟩)) ∧
          ∀ e ∈ ds, e.sender? ≠ some id := by
  refine ⟨fun es j earlier then_ c => since.read one fair earlier then_, ?_, ?_,
    fun d done id o asks order there => one.answered since done asks order there⟩
  · intro d done o content body phase u storing unmoved c
    obtain ⟨es, before, earlier⟩ := since.before done
    have rest : es <:+ ds := (List.suffix_cons d es).trans earlier
    have attained := before.attained (one.earlier rest) (fair.earlier rest)
    have order : o ∈ orders ds := List.mem_filterMap.mpr ⟨d, done, Deed.order?_of_body? body⟩
    obtain rfl := one.path o order
    exact attained.read_storing (fair.alone.sublist earlier.sublist) body storing unmoved
  · cases since.attained one fair with
    | missing _ unfetched => simp [unfetched]
    | there _ _ once => exact once

/-- Where all of the following is to be. -/
def toolPath : Path := Path.ofString "bin/t"

/-- Two calls at once, of which one is refused, and a third one later. -/
def attempts : List Action :=
  [.begin 1 (.install (Path.ofString "bin") "t" (.text "u")),
    .begin 2 (.install (Path.ofString "bin") "t" (.text "v")),
    .received 1 ["u"] (.response "u" { status := 404 }) none,
    .received 2 ["v"] (.response "v" { status := 200, body := [1, 2] }) none,
    .begin 3 (.install (Path.ofString "bin") "t" (.text "u"))]

theorem fetched_once_attempts :
    OnePath {} (play [] {} attempts).1 toolPath ∧ Undisputed {} (play [] {} attempts).1 toolPath ∧
    fetchers (play [] {} attempts).1 = [2] ∧
    (play [] {} attempts).2.host.files.read toolPath = .ok [1, 2] ∧
    ∀ e ∈ (play [] {} attempts).1, e.sender? ≠ some 3 := by
  have since : Since {} (play [] {} attempts).1 (play [] {} attempts).2 := Since.start.play attempts
  have one : OnePath {} (play [] {} attempts).1 toolPath :=
    ⟨rfl, by decide +kernel, by decide +kernel⟩
  have fair : Undisputed {} (play [] {} attempts).1 toolPath := ⟨by decide +kernel, nofun⟩
  obtain ⟨reads, -, -, answered⟩ := fetched_once since one fair
  have written : (play [] {} (attempts.take 4)).2.host.files.read toolPath = .ok [1, 2] := by
    decide +kernel
  refine ⟨one, fair, by decide +kernel, ?_, ?_⟩
  · exact reads _ _ (List.suffix_cons _ _) (Since.start.play (attempts.take 4)) _ written
  · exact (answered _ List.mem_cons_self 3 ⟨Path.ofString "bin", "t", "u"⟩ rfl (by decide +kernel)
      (by decide +kernel)).2

/-- Two calls at once that both receive the artifact. -/
def twins : List Action :=
  [.begin 1 (.install (Path.ofString "bin") "t" (.text "u")),
    .begin 2 (.install (Path.ofString "bin") "t" (.text "u")),
    .received 1 ["u"] (.response "u" { status := 200, body := [1] }) none,
    .received 2 ["u"] (.response "u" { status := 200, body := [2] }) none]

/-- A file that is found by a path once a directory is made on the way. -/
def hidden : House := { host := { files := { entries := [(["t"], .file [0])] } } }

/-- The directory is made, and the file is written over. -/
def roundabout : List Action :=
  [.begin 1 (.install (Path.ofString "d/..") "t" (.text "u")),
    .received 1 ["u"] (.response "u" { status := 200, body := [1] }) none]

/-- Two calls fetch an artifact, and the second one writes over what the first has written; and a
single one writes over a file that is at its path when the directories are made. -/
theorem fetched_over :
    (OnePath {} (play [] {} twins).1 toolPath ∧ fetchers (play [] {} twins).1 = [2, 1] ∧
      (play [] {} (twins.take 3)).2.host.files.read toolPath = .ok [1] ∧
      (play [] {} twins).2.host.files.read toolPath = .ok [2]) ∧
    OnePath hidden (play [] hidden roundabout).1 (Path.ofString "d/../t") ∧
      (∃ d ∈ (play [] hidden roundabout).1, ∃ o content u, d.body? = some (o, content) ∧
        Storing d.house.host.files o content .making u ∧
          u.read (Path.ofString "d/../t") = .ok [0]) ∧
      (play [] hidden roundabout).2.host.files.read (Path.ofString "d/../t") = .ok [1] := by
  refine ⟨⟨⟨rfl, by decide +kernel, by decide +kernel⟩, by decide +kernel, by decide +kernel,
    by decide +kernel⟩, ⟨rfl, by decide +kernel, by decide +kernel⟩, ?_, by decide +kernel⟩
  refine ⟨_, List.mem_cons_self, ⟨Path.ofString "d/..", "t", "u"⟩, [1], _, by decide +kernel,
    .making (FileTree.mkdirs_making _ _), by decide +kernel⟩

end ToolHost

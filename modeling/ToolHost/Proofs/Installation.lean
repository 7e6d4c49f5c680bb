import ToolHost.Proofs.Install.Course

/-!
# An artifact as a whole or not at all

Main statement: whatever installations do in whatever order, and whatever the web and the system
answer, at the place of an artifact stands at every moment what stood there in the beginning or the
whole of what one of them received; nothing else that stood somewhere is changed, and no draft is
left. The location is that of the last installation that ended well, and its artifact is there.
-/
namespace ToolHost

open Machine Install

variable {h k : House} {ds : List Deed} {d : Deed} {u : FileTree} {o : Order}
  {draft : Option (Order × Machine.Place)}

/-- Artifacts have plain names, and none of them is to stand on the way to the target of one. -/
structure Apart (h : House) (ds : List Deed) : Prop where
  plain : ∀ o ∈ orders ds, Path.IsPlain o.artifactName
  offWay : ∀ o ∈ orders ds, ∀ o' ∈ orders ds, ∀ q : Path, q.LeadsTo o'.target →
    h.host.files.place q ≠ o.place h.host.files

instance (h : House) (ds : List Deed) : Decidable (Apart h ds) :=
  decidable_of_iff ((∀ o ∈ orders ds, Path.IsPlain o.artifactName) ∧
      ∀ o ∈ orders ds, ∀ o' ∈ orders ds,
        ∀ q ∈ o'.target.names.inits.map fun names => (⟨o'.target.anchor, names⟩ : Path),
          h.host.files.place q ≠ o.place h.host.files)
    ⟨fun hall => ⟨hall.1, fun o ho o' ho' q hq => hall.2 o ho o' ho' q (Path.leadsTo_iff.mp hq)⟩,
      fun apart => ⟨apart.plain, fun o ho o' ho' q hq =>
        apart.offWay o ho o' ho' q (Path.leadsTo_iff.mpr hq)⟩⟩

/-- A tree that differs from the first one by whole artifacts, new directories and the draft. -/
structure Whole (h : House) (ds : List Deed) (u : FileTree)
    (draft : Option (Order × Machine.Place)) : Prop where
  /-- At the place of an artifact is what was there or the whole of what was received, unless the
  draft of another one has that very name. -/
  artifacts : ∀ o ∈ orders ds, let x := o.place h.host.files
    u.at? x = h.host.files.at? x ∨
      (∃ o' content, (o', content) ∈ bodies ds ∧ o'.place h.host.files = x ∧
        u.at? x = some (.file content)) ∨
      h.host.files.at? x = none ∧ ∃ o', draft = some (o', x) ∧ o'.place h.host.files ≠ x
  /-- What is there and is no artifact stays. -/
  others : ∀ x e, h.host.files.at? x = some e →
    (∀ o ∈ orders ds, o.place h.host.files = x → e = .dir) → u.at? x = some e
  /-- No file is new but artifacts and the draft. -/
  files : ∀ x content, u.at? x = some (.file content) →
    h.host.files.at? x = some (.file content) ∨
      (∃ o, (o, content) ∈ bodies ds ∧ o.place h.host.files = x) ∨
      ∃ o, draft = some (o, x)

/-- An action after which the location, every entry and the place of every artifact are as they
were. -/
structure Unharmed (h : House) (ds : List Deed) (d : Deed) : Prop where
  location : (d.house.act d.action).house.location = d.house.location
  entries : ∀ x e, d.house.host.files.at? x = some e →
    (d.house.act d.action).house.host.files.at? x = some e
  artifacts : ∀ o ∈ orders ds, (d.house.act d.action).house.host.files.at? (o.place h.host.files) =
    d.house.host.files.at? (o.place h.host.files)

theorem Moment.draft_ne_place (m : Moment h ds u draft) (apart : Apart h ds) {x : Machine.Place}
    (hdraft : draft = some (o, x)) : o.place h.host.files ≠ x := by
  cases m with
  | between => cases hdraft
  | @within ds k since a o' content body p _ storing =>
    obtain ⟨x', hx', heq⟩ := Option.map_eq_some_iff.mp hdraft
    obtain ⟨rfl, rfl⟩ := Prod.mk.inj heq
    cases p with
    | drafting y =>
      obtain rfl := Option.some.inj hx'
      have horder : o' ∈ orders (⟨k, a⟩ :: ds) := mem_orders (Deed.order?_of_body? body)
      rw [Order.place, ← FileTree.place_congr since.seen.1]
      exact (storing.draft_ne_place (apart.plain o' horder)).symm
    | making => cases hx'
    | cleared => cases hx'
    | moved => cases hx'

theorem Moment.whole (m : Moment h ds u draft) (apart : Apart h ds) : Whole h ds u draft where
  artifacts o ho := by
    cases m.seen (o.place h.host.files) with
    | same same => exact .inl same
    | dir new dir o' ho' q onWay place => exact absurd place.symm (apart.offWay o ho o' ho' q onWay)
    | draft o' ho' drafting new =>
      exact .inr (.inr ⟨new, o', drafting, m.draft_ne_place apart drafting⟩)
    | artifact o' content body ho' place noDir whole =>
      exact .inr (.inl ⟨o', content, body, place.symm, whole⟩)
  others x e hx hplain := by
    cases m.seen x with
    | same same => exact same.trans hx
    | dir new =>
      rw [hx] at new
      cases new
    | draft _ _ _ new =>
      rw [hx] at new
      cases new
    | artifact o content body ho place noDir whole =>
      rw [hplain o ho place.symm] at hx
      exact absurd hx noDir
  files x content hx := by
    cases m.seen x with
    | same same => exact .inl (same ▸ hx)
    | dir new dir =>
      rw [dir] at hx
      cases hx
    | draft o ho drafting new => exact .inr (.inr ⟨o, drafting⟩)
    | artifact o content' body ho place noDir whole =>
      obtain rfl : content' = content := Entry.file.inj (Option.some.inj (whole ▸ hx))
      exact .inr (.inl ⟨o, body, place.symm⟩)

/-- What does not end an installation well leaves everything as it was. -/
theorem Since.unharmed (s : Since h ds k) (apart : Apart h ds) (hd : d ∈ ds)
    (hended : d.installed? = none) : Unharmed h ds d := by
  obtain ⟨es, hsince⟩ := s.of_mem hd
  have hcwd := hsince.seen.1
  cases Deed.effect_act d.house d.action with
  | idle host location ended => exact ⟨location, fun x e hx => host ▸ hx, fun o ho => by rw [host]⟩
  | found o order host location stands ended =>
    rw [hended] at ended
    cases ended
  | finished o order content body storing stands location ended =>
    rw [hended] at ended
    cases ended
  | unfinished o order content body p stopped storing location ended =>
    have hmoved : p ≠ .moved := by rcases stopped with rfl | rfl <;> simp
    refine ⟨location, fun x e hx => storing.kept hx fun _ => .inr hmoved, fun o' ho' => ?_⟩
    have ho : o ∈ orders ds := List.mem_filterMap.mpr ⟨d, hd, order⟩
    cases storing.sight (o'.place h.host.files) with
    | same same => exact same
    | dir new dir q onWay place =>
      rw [FileTree.place_congr hcwd] at place
      exact absurd place.symm (apart.offWay o' ho' o ho q onWay)
    | draft drafting new => rcases stopped with rfl | rfl <;> cases drafting
    | artifact moved => exact absurd moved hmoved

/-- Installations install artifacts as a whole or not at all. -/
theorem artifacts_whole (h : House) (ds : List Deed) (apart : Apart h ds) :
    (∀ u draft, Moment h ds u draft → Whole h ds u draft) ∧
    ∀ k, Since h ds k →
      (∀ d ∈ ds, d.installed? = none → Unharmed h ds d) ∧
      k.location = (installed ds).head?.elim h.location Order.location ∧
      ∀ o ∈ installed ds, Config.Place.exists? k.host o.path = .ok true := by
  refine ⟨fun u draft m => m.whole apart, fun k s => ⟨?_, s.location.1, fun o ho => ?_⟩⟩
  · intro d hd hended
    exact s.unharmed apart hd hended
  · rw [place_exists_iff]
    exact s.location.2 o ho

/-- Two installations of one artifact at once: the first one cannot write what it received, after
the second has installed what it received. -/
def rivals : List Action :=
  [.begin 1 (.install (Path.ofString "bin") "tool.jar" (.text "u")),
    .begin 2 (.install (Path.ofString "bin") "tool.jar" (.text "v")),
    .received 2 ["v"] (.response "v" { status := 200, body := [1, 2] }) none,
    .received 1 ["u"] (.response "u" { status := 200, body := [3] }) (some (.write, .accessDenied))]

theorem artifacts_whole_rivals :
    Apart {} (play [] {} rivals).1 ∧
    Whole {} (play [] {} rivals).1 (play [] {} rivals).2.host.files none ∧
    (play [] {} rivals).2.host.files.at? ["bin", "tool.jar"] = some (.file [1, 2]) ∧
    (play [] {} rivals).2.location.directory = some (Path.ofString "bin") ∧
    ∀ o ∈ installed (play [] {} rivals).1,
      Config.Place.exists? (play [] {} rivals).2.host o.path = .ok true := by
  have apart : Apart {} (play [] {} rivals).1 := by decide +kernel
  have s : Since {} (play [] {} rivals).1 (play [] {} rivals).2 := Since.start.play rivals
  obtain ⟨hmoments, hends⟩ := artifacts_whole {} _ apart
  obtain ⟨-, hlocation, hexists⟩ := hends _ s
  refine ⟨apart, hmoments _ _ (.between s), by decide +kernel, ?_, hexists⟩
  rw [hlocation]
  decide +kernel

/-- An artifact of the name of a directory that its own target goes through: the directory is made,
and the artifact cannot be moved over it. -/
def detour : List Action :=
  [.begin 1 (.install (Path.ofString "tool.jar/..") "tool.jar" (.text "u")),
    .received 1 ["u"] (.response "u" { status := 200, body := [1] }) none]

/-- Two artifacts of which one has the name of the other's draft. -/
def namesakes : List Action :=
  [.begin 1 (.install (Path.ofString ".") "a" (.text "u")),
    .begin 2 (.install (Path.ofString ".") ".a.00000000.part" (.text "v"))]

/-- The end of the first of the two. -/
def arrival : Action := .received 1 ["u"] (.response "u" { status := 200, body := [1] }) none

/-- An installation that fails has made a directory of the artifact's place, and an artifact that has
not been received is there in part. -/
theorem detour_not_whole :
    ((play [] {} (detour.take 1)).2.host.files.at? ["tool.jar"] = none ∧
      (∃ d, (play [] {} detour).1.head? = some d ∧ (d.house.act d.action).returned =
        some (1, .error (.failure (.write "tool.jar/../tool.jar" "Is a directory")))) ∧
      (play [] {} detour).2.host.files.at? ["tool.jar"] = some .dir) ∧
    ∃ u o, Moment {} (play [] {} (namesakes ++ [arrival])).1 u (some (o, [".a.00000000.part"])) ∧
      u.at? [".a.00000000.part"] = some (.file []) := by
  refine ⟨⟨by decide +kernel, ⟨_, rfl, rfl⟩, by decide +kernel⟩, ?_⟩
  have hbody : Deed.body? ⟨(play [] {} namesakes).2, arrival⟩ =
      some (⟨Path.ofString ".", "a", "u"⟩, [1]) := by decide +kernel
  have hfiles : (play [] {} namesakes).2.host.files = {} := by
    have hentries : (play [] {} namesakes).2.host.files.entries = [] := by decide +kernel
    have hcwd : (play [] {} namesakes).2.host.files.cwd = ⟨.root, []⟩ := by decide +kernel
    generalize (play [] {} namesakes).2.host.files = t at hentries hcwd
    cases t
    subst hentries hcwd
    rfl
  have hcreated : ∃ u, ({} : FileTree).createIn (Path.ofString ".") (draftName "a" 0) [] =
      .ok (u, [".a.00000000.part"]) ∧ u.at? [".a.00000000.part"] = some (.file []) := by
    refine ⟨({} : FileTree).put [".a.00000000.part"] (.file []), rfl, by decide⟩
  have hname : (Order.path ⟨Path.ofString ".", "a", "u"⟩).name = "a" := by decide +kernel
  obtain ⟨u, hcreated, hempty⟩ := hcreated
  rw [← hname, ← hfiles] at hcreated
  rw [play_append]
  exact ⟨u, _, .within (Since.start.play namesakes) _ hbody (.create .start 0 hcreated), hempty⟩

end ToolHost

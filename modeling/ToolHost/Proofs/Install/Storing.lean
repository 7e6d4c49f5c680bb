import ToolHost.Proofs.Install.Places

/-!
# An artifact being written

Writing an artifact takes several calls of the system, and the tree after any of them can be seen by
others. Up to the last call the place of the artifact is as it was; with the last one the whole
artifact stands there. Apart from this only directories on the way are new, and, while it is being
written, the draft.
-/
namespace ToolHost.Install

open Machine

variable {t u v : FileTree} {o : Order} {content : Bytes} {draft x : Machine.Place} {q : Path}

/-- Where an artifact is to stand. -/
def Order.place (o : Order) (t : FileTree) : Machine.Place := t.place o.path

/-- How far the writing of an artifact has come. -/
inductive Phase
  /-- Directories are made. -/
  | making
  /-- A draft is being written. -/
  | drafting (draft : Machine.Place)
  /-- The draft was taken away. -/
  | cleared
  /-- The draft was moved over. -/
  | moved
  deriving DecidableEq

/-- The draft that stands somewhere. -/
def Phase.draft? : Phase → Option Machine.Place
  | drafting draft => some draft
  | _ => none

/-- The trees that the calls of the system lead to while an artifact is written. -/
inductive Storing (t : FileTree) (o : Order) (content : Bytes) : Phase → FileTree → Prop
  | making {u : FileTree} (h : FileTree.Making t o.target u) : Storing t o content .making u
  | create {u v : FileTree} {draft : Machine.Place} (h : FileTree.Making t o.target u) (n : Nat)
      (created : u.createIn o.target (draftName o.path.name n) [] = .ok (v, draft)) :
      Storing t o content (.drafting draft) v
  /-- Part of the content is there. -/
  | write {u : FileTree} {draft : Machine.Place} (h : Storing t o content (.drafting draft) u)
      (length : Nat) :
      Storing t o content (.drafting draft) (u.put draft (.file (content.take length)))
  | clear {u : FileTree} {draft : Machine.Place} (h : Storing t o content (.drafting draft) u) :
      Storing t o content .cleared (u.erase draft)
  | move {u v : FileTree} {draft : Machine.Place} (h : Storing t o content (.drafting draft) u)
      (whole : u.at? draft = some (.file content)) (moved : u.replace draft o.path = .ok v) :
      Storing t o content .moved v

theorem createDraft_ok {dir : Path} {artifactName : String}
    (h : createDraft t dir artifactName = .ok (u, draft)) :
    ∃ n, t.createIn dir (draftName artifactName n) [] = .ok (u, draft) := by
  have go_ok (left n : Nat) (h : createDraft.go t dir artifactName left n = .ok (u, draft)) :
      ∃ n, t.createIn dir (draftName artifactName n) [] = .ok (u, draft) := by
    induction left generalizing n with
    | zero => cases h
    | succ left ih =>
      rw [createDraft.go] at h
      split at h
      next =>
        split at h
        · exact ih _ h
        · cases h
      next made hmade => exact ⟨n, hmade.trans h⟩
  exact go_ok _ _ h

/-- How a call ended: with the draft moved over, or in another way and with an error. -/
def Phase.EndsWith (p : Phase) (e : Option Errno) : Prop :=
  p = .moved ∧ e = none ∨ (p = .making ∨ p = .cleared) ∧ ∃ failure, e = some failure

theorem Storing.fill (h : Storing t o content (.drafting draft) u) :
    Storing t o content (.drafting draft) (u.put draft (.file content)) := by
  have hwhole := h.write content.length
  rwa [List.take_length] at hwhole

theorem moveOver_storing (h : Storing t o content (.drafting draft) u) (hdraft : draft ≠ [])
    (r : Refusal) : ∃ p, Storing t o content p (moveOver u draft o content r).1 ∧
      p.EndsWith (moveOver u draft o content r).2 := by
  rw [moveOver]
  cases refused r .write with
  | some e => exact ⟨.cleared, h.clear, .inr ⟨.inr rfl, e, rfl⟩⟩
  | none =>
    have hfilled := h.fill
    simp only
    cases refused r .replace with
    | some e => exact ⟨.cleared, hfilled.clear, .inr ⟨.inr rfl, e, rfl⟩⟩
    | none =>
      simp only
      cases hmoved : (u.put draft (.file content)).replace draft o.path with
      | error e => exact ⟨.cleared, hfilled.clear, .inr ⟨.inr rfl, e, rfl⟩⟩
      | ok v =>
        exact ⟨.moved, hfilled.move (u.at?_put_self draft _ hdraft) hmoved, .inl ⟨rfl, rfl⟩⟩

/-- The length of the name of a draft. -/
theorem length_draftName (artifactName : String) (n : Nat) :
    artifactName.toList.length + 2 < (draftName artifactName n).toList.length := by
  simp only [draftName, String.toList_append, List.length_append]
  have hstart : ".".toList.length = 1 := rfl
  have hstop : ".part".toList.length = 5 := rfl
  omega

theorem draftName_ne_above (artifactName : String) (n : Nat) : draftName artifactName n ≠ ".." := by
  intro h
  have hlength := length_draftName artifactName n
  rw [h] at hlength
  have habove : "..".toList.length = 2 := rfl
  omega

theorem store_storing (t : FileTree) (o : Order) (content : Bytes) (r : Refusal) :
    ∃ p, Storing t o content p (store t o content r).1 ∧
      p.EndsWith (store t o content r).2 := by
  rw [store]
  cases refused r .mkdir with
  | some e => exact ⟨.making, .making .start, .inr ⟨.inl rfl, e, rfl⟩⟩
  | none =>
    have hmaking := FileTree.mkdirs_making t o.target
    simp only
    generalize t.mkdirs o.target = made at hmaking
    obtain ⟨u, failure⟩ := made
    cases failure with
    | some e => exact ⟨.making, .making hmaking, .inr ⟨.inl rfl, e, rfl⟩⟩
    | none =>
      simp only
      cases refused r .create with
      | some e => exact ⟨.making, .making hmaking, .inr ⟨.inl rfl, e, rfl⟩⟩
      | none =>
        simp only
        cases hcreated : createDraft u o.target o.path.name with
        | error e => exact ⟨.making, .making hmaking, .inr ⟨.inl rfl, e, rfl⟩⟩
        | ok created =>
          obtain ⟨v, draft⟩ := created
          obtain ⟨n, hcreated⟩ := createDraft_ok hcreated
          have hnone := (FileTree.createIn_ok (draftName_ne_above _ n) hcreated).2.1
          exact moveOver_storing (.create hmaking n hcreated) (FileTree.ne_nil_of_at? hnone) r

/-! ## What a moment of it looks like -/

/-- While a draft is written the tree is one to which directories were added, but for the draft,
where nothing stood. -/
theorem Storing.drafting_making (h : Storing t o content (.drafting draft) u) :
    ∃ v n, FileTree.Making t o.target v ∧ u.cwd = v.cwd ∧ v.at? draft = none ∧
      draft = v.place o.target ++ [draftName o.path.name n] ∧
      ∀ x, x ≠ draft → u.at? x = v.at? x := by
  generalize hp : Phase.drafting draft = p at h
  induction h with
  | making => cases hp
  | clear => cases hp
  | move => cases hp
  | @create u v d hmaking n hcreated =>
    obtain rfl := Phase.drafting.inj hp
    obtain ⟨hplace, hnone, rfl⟩ := FileTree.createIn_ok (draftName_ne_above _ n) hcreated
    exact ⟨u, n, hmaking, rfl, hnone, hplace, fun x hx => u.at?_put_of_ne _ (Ne.symm hx)⟩
  | @write u d _ length ih =>
    obtain rfl := Phase.drafting.inj hp
    obtain ⟨v, n, hmaking, hcwd, hnone, hplace, hrest⟩ := ih rfl
    refine ⟨v, n, hmaking, hcwd, hnone, hplace, fun x hx => ?_⟩
    rw [u.at?_put_of_ne _ (Ne.symm hx), hrest x hx]

variable {p : Phase}

/-- What stands at a place at some moment: what stood there before, a new directory on the way, the
draft, or the artifact. -/
inductive Sight (t : FileTree) (o : Order) (content : Bytes) (p : Phase) (u : FileTree)
    (x : Machine.Place) : Prop
  | same (same : u.at? x = t.at? x)
  | dir (new : t.at? x = none) (dir : u.at? x = some .dir) (q : Path)
      (onWay : q.LeadsTo o.target) (place : x = t.place q)
  | draft (drafting : p = .drafting x) (new : t.at? x = none)
  | artifact (moved : p = .moved) (place : x = o.place t) (noDir : t.at? x ≠ some .dir)
      (whole : u.at? x = some (.file content))

theorem Sight.of_making (h : FileTree.Making t o.target v) (same : u.at? x = v.at? x) :
    Sight t o content p u x := by
  rcases h.at? x with hsame | ⟨hnew, hdir, q, hq, hplace⟩
  · exact .same (same.trans hsame)
  · exact .dir hnew (same.trans hdir) q hq hplace

/-- The draft that was moved over, and where it went. -/
theorem Storing.moved_cases (h : Storing t o content .moved v) :
    ∃ u draft, Storing t o content (.drafting draft) u ∧ u.at? (o.place u) ≠ some .dir ∧
      o.place u ≠ draft ∧ o.place u ≠ [] ∧ (∃ old, u.locate o.path = .ok (o.place u, old)) ∧
      v = (u.erase draft).put (o.place u) (.file content) := by
  cases h with
  | @move u _ draft hdrafting whole moved =>
    obtain ⟨content', hcontent, hne, hroot, hdir, hlocate, rfl⟩ := FileTree.replace_ok moved
    obtain rfl : content = content' := by
      rw [whole] at hcontent
      exact Entry.file.inj (Option.some.inj hcontent)
    exact ⟨u, draft, hdrafting, hdir, hne, hroot, hlocate, rfl⟩

theorem Storing.cwd (h : Storing t o content p u) : u.cwd = t.cwd := by
  have drafting {draft : Machine.Place} {u : FileTree}
      (h : Storing t o content (.drafting draft) u) : u.cwd = t.cwd := by
    obtain ⟨v, _, hmaking, hcwd, -⟩ := h.drafting_making
    exact hcwd.trans hmaking.cwd
  cases p with
  | drafting draft => exact drafting h
  | making =>
    cases h with
    | making h => exact h.cwd
  | cleared =>
    cases h with
    | clear h =>
      have hcwd := drafting h
      exact hcwd
  | moved =>
    obtain ⟨u, draft, hdrafting, -, -, -, -, rfl⟩ := h.moved_cases
    have hcwd := drafting hdrafting
    exact hcwd

theorem Storing.place_eq (h : Storing t o content p u) (other : Order) :
    other.place u = other.place t :=
  FileTree.place_congr h.cwd _

theorem Storing.draft_file (h : Storing t o content (.drafting draft) u) :
    ∃ part, u.at? draft = some (.file part) := by
  cases h with
  | create hmaking n hcreated =>
    obtain ⟨-, hnone, rfl⟩ := FileTree.createIn_ok (draftName_ne_above _ n) hcreated
    exact ⟨[], FileTree.at?_put_self _ _ _ (FileTree.ne_nil_of_at? hnone)⟩
  | write h length =>
    obtain ⟨v, _, -, -, hnone, -⟩ := h.drafting_making
    exact ⟨_, FileTree.at?_put_self _ _ _ (FileTree.ne_nil_of_at? hnone)⟩

theorem Storing.draft_ne_nil (h : Storing t o content (.drafting draft) u) : draft ≠ [] := by
  obtain ⟨v, _, -, -, hnone, -⟩ := h.drafting_making
  exact FileTree.ne_nil_of_at? hnone

/-- What stands at a place at any moment while an artifact is written. -/
theorem Storing.sight (h : Storing t o content p u) (x : Machine.Place) :
    Sight t o content p u x := by
  cases p with
  | making =>
    cases h with
    | making h => exact .of_making h rfl
  | drafting draft =>
    obtain ⟨v, n, hmaking, -, hnone, -, hrest⟩ := h.drafting_making
    by_cases hx : x = draft
    · subst hx
      rcases hmaking.at? x with hsame | ⟨hnew, -⟩
      · exact .draft rfl (hsame ▸ hnone)
      · exact .draft rfl hnew
    · exact .of_making hmaking (hrest x hx)
  | cleared =>
    cases h with
    | @clear u draft h =>
      obtain ⟨v, n, hmaking, -, hnone, -, hrest⟩ := h.drafting_making
      refine .of_making hmaking ?_
      rw [u.at?_erase h.draft_ne_nil]
      split
      next heq => exact heq ▸ hnone.symm
      next hne => exact hrest x (Ne.symm hne)
  | moved =>
    obtain ⟨u, draft, hdrafting, hdir, hne, hroot, -, rfl⟩ := h.moved_cases
    obtain ⟨v, n, hmaking, -, hnone, -, hrest⟩ := hdrafting.drafting_making
    rw [hdrafting.place_eq] at hdir hne hroot ⊢
    by_cases hx : x = o.place t
    · subst hx
      rw [hrest _ hne] at hdir
      refine .artifact rfl rfl (fun hold => ?_) (by rw [FileTree.at?_put _ _ hroot, if_pos rfl])
      rcases hmaking.at? (o.place t) with hsame | ⟨hnew, -⟩
      · exact hdir (hsame.trans hold)
      · rw [hold] at hnew
        cases hnew
    · refine .of_making hmaking ?_
      rw [FileTree.at?_put _ _ hroot, if_neg (Ne.symm hx), u.at?_erase hdrafting.draft_ne_nil]
      split
      next heq => exact heq ▸ hnone.symm
      next hdraft => exact hrest x (Ne.symm hdraft)

/-- What stood somewhere stays, but at the place of the artifact, and directories stay there too. -/
theorem Storing.kept (h : Storing t o content p u) {e : Entry} (hx : t.at? x = some e)
    (apart : x = o.place t → e = .dir ∨ p ≠ .moved) : u.at? x = some e := by
  cases h.sight x with
  | same same => exact same.trans hx
  | dir new =>
    rw [hx] at new
    cases new
  | draft _ new =>
    rw [hx] at new
    cases new
  | artifact moved place noDir =>
    rcases apart place with rfl | hp
    · exact absurd hx noDir
    · exact absurd moved hp

/-- The draft of an artifact does not stand in the artifact's place. -/
theorem Storing.draft_ne_place (h : Storing t o content (.drafting draft) u)
    (plain : Path.IsPlain o.artifactName) : draft ≠ o.place t := by
  obtain ⟨v, n, hmaking, -, -, hplace, -⟩ := h.drafting_making
  have hpath : o.path = o.target.append ⟨.here, [o.artifactName]⟩ := plain.join o.target
  have hname : o.path.name = o.artifactName := by
    have happend : (o.target.append ⟨.here, [o.artifactName]⟩).names =
        o.target.names ++ [o.artifactName] := rfl
    rw [hpath, Path.name, happend, List.getLast?_concat, Option.getD_some]
  rw [hplace, hname, FileTree.place_congr hmaking.cwd, Order.place, hpath,
    t.place_append o.target plain.notAbove]
  intro heq
  have hlength := length_draftName o.artifactName n
  rw [List.singleton_inj.mp (List.append_cancel_left heq)] at hlength
  omega

/-- The artifact can be found where it was moved to. -/
theorem Storing.moved_exists (h : Storing t o content .moved v) :
    v.locate o.path = .ok (o.place t, some (.file content)) := by
  obtain ⟨u, draft, hdrafting, hdir, hne, hroot, ⟨old, hlocate⟩, rfl⟩ := h.moved_cases
  obtain ⟨part, hdraft⟩ := hdrafting.draft_file
  -- Neither the draft nor what the artifact replaced was a directory.
  have hdirs (y : Machine.Place) (hy : u.at? y = some .dir) :
      ((u.erase draft).put (o.place u) (.file content)).at? y = some .dir := by
    have hyplace : o.place u ≠ y := by
      rintro rfl
      exact hdir hy
    have hydraft : draft ≠ y := by
      rintro rfl
      rw [hdraft] at hy
      cases hy
    rw [FileTree.at?_put_of_ne _ _ hyplace, u.at?_erase_of_ne hydraft, hy]
  have hcwd : ((u.erase draft).put (o.place u) (.file content)).cwd = u.cwd := rfl
  have hfound := FileTree.locate_of_dirs hcwd hdirs hlocate
  rw [FileTree.at?_put _ _ hroot, if_pos rfl, hdrafting.place_eq] at hfound
  rw [hdrafting.place_eq]
  exact hfound

end ToolHost.Install

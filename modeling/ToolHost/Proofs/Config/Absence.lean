import ToolHost.Proofs.Install.Places

/-!
# A tree without some of its files

Taking files away leaves every directory, so a path leads on as it did, except that nothing stands
any more where one of these files stood. A path that a file was in the way of leads nowhere as
before.
-/
namespace ToolHost.Machine.FileTree

variable {t u : FileTree} {p : Path} {x : Place} {places : List Place}

/-- A tree with some places cleared. -/
def without (t : FileTree) (places : List Place) : FileTree := places.foldl erase t

/-- Places at which files stand. -/
def AreFiles (t : FileTree) (places : List Place) : Prop :=
  ∀ x ∈ places, ∃ content, t.at? x = some (.file content)

@[simp] theorem without_cwd (t : FileTree) (places : List Place) :
    (t.without places).cwd = t.cwd := by
  induction places generalizing t with
  | nil => rfl
  | cons x places ih => exact ih (t.erase x)

theorem AreFiles.ne_nil (h : t.AreFiles places) : ∀ x ∈ places, x ≠ [] := by
  rintro x hx rfl
  obtain ⟨content, hcontent⟩ := h [] hx
  cases hcontent

theorem at?_without (t : FileTree) (hne : ∀ x ∈ places, x ≠ []) (y : Place) :
    (t.without places).at? y = if y ∈ places then none else t.at? y := by
  induction places generalizing t with
  | nil => rfl
  | cons x places ih =>
    obtain ⟨hx, hrest⟩ := List.forall_mem_cons.mp hne
    rw [without, List.foldl_cons, ← without, ih _ hrest, at?_erase t hx]
    by_cases hxy : x = y
    · simp [hxy]
    · simp [hxy, Ne.symm hxy]

theorem AreFiles.dir_iff (h : t.AreFiles places) (y : Place) :
    (t.without places).at? y = some .dir ↔ t.at? y = some .dir := by
  rw [at?_without t h.ne_nil]
  split
  next hy =>
    obtain ⟨content, hcontent⟩ := h y hy
    simp [hcontent]
  next => rfl

/-- What ends the way in a tree ends it without some files too: where one of them was in the way
there is nothing now. -/
theorem AreFiles.walk_error (h : t.AreFiles places) {start : Place} {names : List String}
    {e : Errno} (herror : t.walk start names = .error e) :
    (t.without places).walk start names = .error e ∨
      e = .notDirectory ∧ (t.without places).walk start names = .error .noEntry := by
  induction names generalizing start with
  | nil => cases herror
  | cons n names ih =>
    rw [walk] at herror
    simp only [walk]
    split at herror
    next content hfile =>
      obtain rfl := Except.error.inj herror
      rw [at?_without t h.ne_nil]
      by_cases hmem : start ∈ places
      · exact .inr ⟨rfl, by rw [if_pos hmem]⟩
      · exact .inl (by rw [if_neg hmem, hfile])
    next hnone =>
      obtain rfl := Except.error.inj herror
      rw [at?_without t h.ne_nil, hnone, ite_self]
      exact .inl rfl
    next hdir =>
      rw [(h.dir_iff start).mpr hdir]
      dsimp only
      split at herror
      next hup =>
        rw [if_pos hup]
        exact ih herror
      next hup =>
        rw [if_neg hup]
        split at herror
        next hsize =>
          rw [if_pos hsize]
          exact .inl herror
        next hsize =>
          rw [if_neg hsize]
          exact ih herror

theorem AreFiles.locate_error (h : t.AreFiles places) {e : Errno} (herror : t.locate p = .error e) :
    (t.without places).locate p = .error e ∨
      e = .notDirectory ∧ (t.without places).locate p = .error .noEntry := by
  rw [locate] at herror ⊢
  split at herror
  next hsize =>
    rw [if_pos hsize]
    exact .inl herror
  next hsize =>
    rw [if_neg hsize, without_cwd]
    exact h.walk_error herror

theorem exists?_congr (h : u.stat p = t.stat p) : u.exists? p = t.exists? p := by
  rw [exists?, exists?, h]

theorem exists?_of_missing {e : Errno} (h : t.stat p = .error e)
    (missing : e = .noEntry ∨ e = .notDirectory) : t.exists? p = .ok false := by
  rw [exists?, h]
  split
  · rfl
  · rcases missing with rfl | rfl <;> rfl

/-- Nothing stands any more where one of the files stood, and everything else is as it was. -/
theorem AreFiles.sight (h : t.AreFiles places) (p : Path) :
    (t.place p ∈ places ∧ (t.without places).exists? p = .ok false) ∨
      (t.without places).exists? p = t.exists? p ∧
        ((t.without places).exists? p = .ok true → (t.without places).read p = t.read p) := by
  cases hlocate : t.locate p with
  | error e =>
    have hstat : t.stat p = .error e := by rw [stat, hlocate]
    refine .inr ?_
    rcases h.locate_error hlocate with hsame | ⟨rfl, hgone⟩
    · have hstat' : (t.without places).stat p = t.stat p := by rw [hstat, stat, hsame]
      exact ⟨exists?_congr hstat', fun _ => by rw [read, read, hstat']⟩
    · have hstat' : (t.without places).stat p = .error .noEntry := by rw [stat, hgone]
      have hnone := exists?_of_missing hstat' (.inl rfl)
      exact ⟨by rw [hnone, exists?_of_missing hstat (.inr rfl)], by simp [hnone]⟩
  | ok found =>
    obtain ⟨x, o⟩ := found
    have hlocate' :=
      locate_of_dirs (without_cwd t places) (fun y hy => (h.dir_iff y).mpr hy) hlocate
    obtain ⟨rfl, rfl⟩ := locate_ok hlocate
    rw [at?_without t h.ne_nil] at hlocate'
    by_cases hmem : t.place p ∈ places
    · rw [if_pos hmem] at hlocate'
      exact .inl ⟨hmem, exists?_of_missing (e := .noEntry) (by rw [stat, hlocate']) (.inl rfl)⟩
    · rw [if_neg hmem] at hlocate'
      have hstat : (t.without places).stat p = t.stat p := by rw [stat, stat, hlocate, hlocate']
      exact .inr ⟨exists?_congr hstat, fun _ => by rw [read, read, hstat]⟩

end ToolHost.Machine.FileTree

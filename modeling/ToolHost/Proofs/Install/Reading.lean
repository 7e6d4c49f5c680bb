import ToolHost.Proofs.Install.Course

/-!
# Reading an artifact that is being written

A path can be read when there is a file at its place and every name on the way can be followed. Up
to the call that moves the draft over, nothing can be read at the path of an artifact but what stood
at its place before: the draft is never found by that path.
-/
namespace ToolHost

open Machine Install

namespace Machine.FileTree

variable {t u : FileTree} {p : Path} {start x y : Machine.Place} {names : List String} {n : String}
  {e : Option Entry} {content : Bytes}

theorem read_ok : t.read p = .ok content ↔ t.locate p = .ok (t.place p, some (.file content)) := by
  rw [read, stat]
  cases found : t.locate p with
  | error e => simp
  | ok found' =>
    obtain ⟨x, e⟩ := found'
    obtain ⟨rfl, -⟩ := locate_ok found
    cases e with
    | none => simp
    | some e => cases e <;> simp

/-- A file that can be read is still there in a tree with the same directories and this file. -/
theorem read_of_dirs (h : t.read p = .ok content) (cwd : u.cwd = t.cwd)
    (dirs : ∀ y, t.at? y = some .dir → u.at? y = some .dir)
    (file : u.at? (t.place p) = some (.file content)) : u.read p = .ok content := by
  rw [read_ok, locate_of_dirs cwd dirs (read_ok.mp h), file, place_congr cwd]

/-- The last name is followed from a directory. -/
theorem walk_concat (h : t.walk start (names ++ [n]) = .ok (x, e)) :
    ∃ y, t.walk start names = .ok (y, some .dir) ∧
      x = if n = ".." then y.dropLast else y ++ [n] := by
  induction names generalizing start with
  | nil =>
    rw [List.nil_append, walk] at h
    split at h
    next => cases h
    next => cases h
    next dir =>
      refine ⟨start, by rw [walk, dir], ?_⟩
      split at h
      next above =>
        rw [if_pos above]
        exact (Prod.mk.inj (Except.ok.inj h)).1.symm
      next notAbove =>
        rw [if_neg notAbove]
        split at h
        · cases h
        · exact (Prod.mk.inj (Except.ok.inj h)).1.symm
  | cons m names ih =>
    rw [List.cons_append, walk] at h
    rw [walk]
    split at h
    next => cases h
    next => cases h
    next =>
      split at h
      next above => simpa only [if_pos above] using ih h
      next notAbove =>
        split at h
        next => cases h
        next short => simpa only [if_neg notAbove, if_neg short] using ih h

/-- Whatever is above a place is a directory. -/
def HasWay (t : FileTree) (x : Machine.Place) : Prop :=
  ∀ y, y <+: x → y ≠ x → t.at? y = some .dir

theorem HasWay.dropLast (h : t.HasWay x) : t.HasWay x.dropLast := by
  intro y above ne
  apply h y (above.trans x.dropLast_prefix)
  rintro rfl
  exact ne (above.eq_of_length_le (List.dropLast_prefix _).length_le)

theorem HasWay.concat (h : t.HasWay x) (dir : t.at? x = some .dir) (n : String) :
    t.HasWay (x ++ [n]) := by
  intro y above ne
  by_cases same : y = x
  · exact same ▸ dir
  · exact h y ((List.prefix_concat_iff.mp above).resolve_left ne) same

/-- Whoever got to a place came through directories. -/
theorem walk_hasWay (way : t.HasWay start) (h : t.walk start names = .ok (x, e)) : t.HasWay x := by
  induction names generalizing start with
  | nil =>
    obtain ⟨rfl, -⟩ := Prod.mk.inj (Except.ok.inj h)
    exact way
  | cons m names ih =>
    rw [walk] at h
    split at h
    next => cases h
    next => cases h
    next dir =>
      split at h
      · exact ih way.dropLast h
      · split at h
        · cases h
        · exact ih (way.concat dir m) h

/-- Double dots lead from a directory to a directory. -/
theorem HasWay.dir_dropLast (h : t.HasWay x) (dir : t.at? x = some .dir) :
    t.at? x.dropLast = some .dir := by
  by_cases root : x.dropLast = x
  · rwa [root]
  · exact h _ x.dropLast_prefix root

/-- A file was reached by its own name from its directory. -/
theorem locate_file (h : t.locate p = .ok (x, some (.file content))) :
    ∃ y n, x = y ++ [n] ∧ (t.cwd.append p).names.getLast? = some n ∧ n ≠ ".." := by
  rw [locate] at h
  split at h
  · cases h
  · obtain ⟨-, here⟩ := walk_ok h
    rcases List.eq_nil_or_concat (t.cwd.append p).names with none | ⟨names, n, some⟩
    · rw [none] at h
      cases h
    · rw [List.concat_eq_append] at some
      rw [some] at h
      obtain ⟨y, walked, place⟩ := walk_concat h
      have way : t.HasWay y := by
        refine walk_hasWay (fun z above ne => ?_) walked
        exact absurd (List.prefix_nil.mp above) ne
      split at place
      next =>
        subst place
        have dir := way.dir_dropLast (walk_ok walked).2.symm
        rw [← here] at dir
        cases dir
      next notAbove => exact ⟨y, n, place, by rw [some, List.getLast?_concat], notAbove⟩

end Machine.FileTree

namespace Install

variable {t u : FileTree} {o : Order} {content c : Bytes} {draft : Machine.Place} {p : Phase}
  {q : Path}

/-- An artifact without a name of its own is to stand in the place of its directory, or at the
root. -/
theorem Order.path_of_noName (o : Order) (none : o.path.names = []) :
    o.path.isAbsolute = true ∨ o.path = o.target := by
  rw [Order.path, Path.join, Path.append] at none ⊢
  split
  next absolute => exact .inl absolute
  next relative =>
    rw [if_neg relative] at none
    refine .inr ?_
    obtain ⟨anchor, names⟩ := o.target
    simp_all

/-- The draft cannot be read by the path of its artifact. -/
theorem Storing.place_ne_draft (h : Storing t o content (.drafting draft) u)
    (read : u.read o.path = .ok c) : o.place t ≠ draft := by
  obtain ⟨v, k, making, cwd, -, place, -⟩ := h.drafting_making
  obtain ⟨y, n, end_, last, -⟩ := FileTree.locate_file (FileTree.read_ok.mp read)
  rw [place, ← FileTree.place_congr cwd, Order.place, ← FileTree.place_congr h.cwd, end_]
  intro same
  obtain ⟨above, name⟩ := List.append_inj' same rfl
  obtain rfl : n = draftName o.path.name k := List.singleton_inj.mp name
  rcases List.eq_nil_or_concat o.path.names with none | ⟨names, m, some⟩
  · rcases o.path_of_noName none with absolute | target
    · rw [Path.append, if_pos absolute, none] at last
      cases last
    · rw [target, above] at end_
      have length := congrArg List.length end_
      simp at length
  · have lasts : (u.cwd.append o.path).names.getLast? = o.path.names.getLast? := by
      rw [Path.append]
      split
      · rfl
      · simp [some]
    have own : o.path.name = draftName o.path.name k :=
      congrArg (Option.getD · "") (lasts.symm.trans last)
    have longer := length_draftName o.path.name k
    rw [← own] at longer
    omega

/-- Until the draft is moved over, what can be read at the path of the artifact stood at its place
before. -/
theorem Storing.file_of_read (h : Storing t o content p u) (unmoved : p ≠ .moved)
    (read : u.read o.path = .ok c) : t.at? (o.place t) = some (.file c) := by
  have file : u.at? (o.place t) = some (.file c) := by
    rw [← h.place_eq o]
    exact (FileTree.locate_ok (FileTree.read_ok.mp read)).2.symm
  cases h.sight (o.place t) with
  | same same => exact same ▸ file
  | dir new dir =>
    rw [dir] at file
    cases file
  | draft drafting new =>
    subst drafting
    exact absurd rfl (h.place_ne_draft read)
  | artifact moved => exact absurd moved unmoved

/-- Until the draft is moved over, whatever could be read can be read. -/
theorem Storing.read_kept (h : Storing t o content p u) (unmoved : p ≠ .moved)
    (read : t.read q = .ok c) : u.read q = .ok c := by
  have file : t.at? (t.place q) = some (.file c) :=
    (FileTree.locate_ok (FileTree.read_ok.mp read)).2.symm
  exact FileTree.read_of_dirs read h.cwd (fun y hy => h.kept hy fun _ => .inl rfl)
    (h.kept file fun _ => .inr unmoved)

/-- What was installed with a response has a size. -/
theorem receive_size {i : Installed} {outcome : Http.Outcome} {r : Refusal}
    (done : (receive t o outcome r).result = .ok i) : i.size.isSome = true := by
  unfold receive at done
  cases outcome with
  | broken b => cases done
  | fault reason => cases done
  | response url response =>
    simp only at done
    repeat' split at done
    all_goals cases done
    rfl

end Install

end ToolHost

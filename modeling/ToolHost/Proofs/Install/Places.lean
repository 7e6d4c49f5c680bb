import ToolHost.Install
import Mathlib.Tactic

/-!
# Places in a tree of files

A path leads to one place whatever the tree holds, if it leads anywhere: the tree only decides
whether each name on the way can be followed. So what a call of the system does to a tree is said
of places: a directory is made where nothing stood, a draft too, and a file that is moved over
leaves its place and stands at the other.
-/
namespace ToolHost.Machine

namespace Path

variable {p q r : Path} {n : String}

/-- A path that is on the way to another, or is that one. -/
structure LeadsTo (q p : Path) : Prop where
  anchor : q.anchor = p.anchor
  names : q.names <+: p.names

theorem LeadsTo.refl (p : Path) : p.LeadsTo p := ⟨rfl, List.prefix_refl _⟩

theorem LeadsTo.trans (h : r.LeadsTo q) (k : q.LeadsTo p) : r.LeadsTo p :=
  ⟨h.anchor.trans k.anchor, h.names.trans k.names⟩

theorem leadsTo_iff : q.LeadsTo p ↔ q ∈ p.names.inits.map (⟨p.anchor, ·⟩) := by
  constructor
  · rintro ⟨hanchor, hnames⟩
    exact List.mem_map.mpr ⟨q.names, List.mem_inits _ _ |>.mpr hnames, by rw [← hanchor]⟩
  · intro h
    obtain ⟨names, hnames, rfl⟩ := List.mem_map.mp h
    exact ⟨rfl, List.mem_inits _ _ |>.mp hnames⟩

theorem parent_leadsTo (p : Path) : p.parent.LeadsTo p := ⟨rfl, List.dropLast_prefix _⟩

/-- A text that is the name of a file and nothing else. -/
structure IsPlain (s : String) : Prop where
  nonempty : s ≠ ""
  notHere : s ≠ "."
  notAbove : s ≠ ".."
  oneName : '/' ∉ s.toList

instance (s : String) : Decidable (IsPlain s) :=
  decidable_of_iff (s ≠ "" ∧ s ≠ "." ∧ s ≠ ".." ∧ '/' ∉ s.toList)
    ⟨fun h => ⟨h.1, h.2.1, h.2.2.1, h.2.2.2⟩, fun h => ⟨h.1, h.2, h.3, h.4⟩⟩

theorem pieces_go {s : List Char} (h : '/' ∉ s) (piece : List Char) :
    pieces.go s piece = [piece.reverse ++ s] := by
  induction s generalizing piece with
  | nil => simp [pieces.go]
  | cons c s ih =>
    obtain ⟨hc, hs⟩ := not_or.mp (mt List.mem_cons.mpr h)
    rw [pieces.go, if_neg (Ne.symm hc), ih hs]
    simp

theorem IsPlain.ofString (h : IsPlain n) : Path.ofString n = ⟨.here, [n]⟩ := by
  have hslashes : n.toList.takeWhile (· == '/') = [] := by
    have hslash := h.oneName
    cases hn : n.toList with
    | nil => rfl
    | cons c cs =>
      rw [hn] at hslash
      have hc : (c == '/') = false := by
        rw [beq_eq_false_iff_ne]
        rintro rfl
        exact hslash List.mem_cons_self
      rw [List.takeWhile_cons, hc]
      rfl
  have hnames : ((pieces n.toList).map String.ofList).filter (fun p => p != "" && p != ".") =
      [n] := by
    simp [pieces, pieces_go h.oneName, h.nonempty, h.notHere]
  simp only [Path.ofString, hslashes, hnames, List.length_nil, if_true]

theorem IsPlain.join (h : IsPlain n) (p : Path) : p.join n = p.append ⟨.here, [n]⟩ := by
  rw [Path.join, h.ofString]

/-- The names of a place with more names followed from there, the last one first. -/
theorem collapse_append (names more : List String) :
    collapse (names ++ more) =
      (more.foldl (fun done n => if n = ".." then done.tail else n :: done)
        (collapse names).reverse).reverse := by
  rw [collapse, collapse, List.foldl_append, List.reverse_reverse]

theorem append_append (p q : Path) (n : String) :
    (p.append (q.append ⟨.here, [n]⟩)).names = (p.append q).names ++ [n] := by
  by_cases h : q.isAbsolute
  · simp [append, isAbsolute] at h ⊢
    simp [h]
  · simp [append, isAbsolute] at h ⊢
    simp [h]

end Path

namespace FileTree

variable {t u : FileTree} {p : Path} {x y : Place} {e : Entry}

/-- The place to which a path leads, if it leads anywhere. -/
def place (t : FileTree) (p : Path) : Place := (p.resolve t.cwd).names

theorem place_congr (h : u.cwd = t.cwd) (p : Path) : u.place p = t.place p := by
  rw [place, place, h]

/-- A file in a directory has the place of the directory and its own name. -/
theorem place_append (t : FileTree) (dir : Path) {n : String} (h : n ≠ "..") :
    t.place (dir.append ⟨.here, [n]⟩) = t.place dir ++ [n] := by
  simp only [place, Path.resolve, Path.append_append, Path.collapse_append]
  simp [h]

theorem at?_put (t : FileTree) (e : Entry) (hx : x ≠ []) (y : Place) :
    (t.put x e).at? y = if x = y then some e else t.at? y := by
  by_cases h : x = y
  · rw [if_pos h, ← h, at?_put_self t x e hx]
  · rw [if_neg h, at?_put_of_ne t e h]

theorem at?_erase (t : FileTree) (hx : x ≠ []) (y : Place) :
    (t.erase x).at? y = if x = y then none else t.at? y := by
  by_cases h : x = y
  · subst h
    have hnone : (t.entries.filter (·.1 != x)).lookup x = none := by
      rw [List.lookup_eq_none_iff]
      intro a ha
      simpa [bne_iff_ne, ne_comm] using (List.mem_filter.mp ha).2
    rw [if_pos rfl, at?, if_neg hx, erase, hnone]
  · rw [if_neg h, at?_erase_of_ne t h]

theorem ne_nil_of_at? (h : t.at? x = none) : x ≠ [] := by
  rintro rfl
  cases h

/-- What names lead to, when they can be followed. -/
theorem walk_ok {start : Place} {names : List String} {o : Option Entry}
    (h : t.walk start names = .ok (x, o)) :
    x = (names.foldl (fun done n => if n = ".." then done.tail else n :: done)
      start.reverse).reverse ∧ o = t.at? x := by
  induction names generalizing start with
  | nil =>
    obtain ⟨rfl, rfl⟩ := Prod.mk.inj (Except.ok.inj h)
    simp
  | cons n names ih =>
    rw [walk] at h
    split at h
    next => cases h
    next => cases h
    next =>
      split at h
      next hn => simpa [hn] using ih h
      next hn =>
        split at h
        · cases h
        · simpa [hn] using ih h

theorem locate_ok {o : Option Entry} (h : t.locate p = .ok (x, o)) :
    x = t.place p ∧ o = t.at? (t.place p) := by
  rw [locate] at h
  split at h
  · cases h
  · obtain ⟨hx, ho⟩ := walk_ok h
    obtain rfl : x = t.place p := hx
    exact ⟨rfl, ho⟩

/-- In a tree with the same directories the same names can be followed. -/
theorem walk_of_dirs (dirs : ∀ y, t.at? y = some .dir → u.at? y = some .dir) {start : Place}
    {names : List String} {o : Option Entry} (h : t.walk start names = .ok (x, o)) :
    u.walk start names = .ok (x, u.at? x) := by
  induction names generalizing start with
  | nil =>
    obtain ⟨rfl, -⟩ := Prod.mk.inj (Except.ok.inj h)
    rfl
  | cons n names ih =>
    rw [walk] at h ⊢
    split at h
    next => cases h
    next => cases h
    next hdir =>
      simp only [dirs _ hdir]
      split at h
      next hn =>
        rw [if_pos hn]
        exact ih h
      next hn =>
        rw [if_neg hn]
        split at h
        next => cases h
        next hsize =>
          rw [if_neg hsize]
          exact ih h

theorem locate_of_dirs (cwd : u.cwd = t.cwd)
    (dirs : ∀ y, t.at? y = some .dir → u.at? y = some .dir) {o : Option Entry}
    (h : t.locate p = .ok (x, o)) : u.locate p = .ok (x, u.at? x) := by
  rw [locate] at h ⊢
  split at h
  next => cases h
  next hsize =>
    rw [if_neg hsize, cwd]
    exact walk_of_dirs dirs h

/-! ## Calls of the system -/

theorem mkdir_ok (h : t.mkdir p = .ok u) : t.at? (t.place p) = none ∧ u = t.put (t.place p) .dir := by
  rw [mkdir] at h
  cases hlocate : t.locate p with
  | error e =>
    rw [hlocate] at h
    cases h
  | ok found =>
    obtain ⟨x, o⟩ := found
    obtain ⟨rfl, ho⟩ := locate_ok hlocate
    rw [hlocate] at h
    cases o with
    | some e => cases h
    | none =>
      refine ⟨ho.symm, ?_⟩
      simp only at h
      split at h
      · exact (Except.ok.inj h).symm
      · cases h

theorem createIn_ok {dir : Path} {n : String} {content : Bytes} (hn : n ≠ "..")
    (h : t.createIn dir n content = .ok (u, x)) :
    x = t.place dir ++ [n] ∧ t.at? x = none ∧ u = t.put x (.file content) := by
  rw [createIn] at h
  cases hlocate : t.locate (dir.append ⟨.here, [n]⟩) with
  | error e =>
    rw [hlocate] at h
    cases h
  | ok found =>
    obtain ⟨y, o⟩ := found
    obtain ⟨rfl, ho⟩ := locate_ok hlocate
    rw [hlocate] at h
    cases o with
    | some e => cases h
    | none =>
      simp only at h
      split at h
      · obtain ⟨rfl, rfl⟩ := Prod.mk.inj (Except.ok.inj h)
        exact ⟨t.place_append dir hn, ho.symm, rfl⟩
      · cases h

/-- A file that was moved over left its place and stands where no directory stood. -/
theorem replace_ok (h : t.replace x p = .ok u) :
    ∃ content, t.at? x = some (.file content) ∧ t.place p ≠ x ∧ t.place p ≠ [] ∧
      t.at? (t.place p) ≠ some .dir ∧ (∃ o, t.locate p = .ok (t.place p, o)) ∧
      u = (t.erase x).put (t.place p) (.file content) := by
  rw [replace] at h
  cases hsource : t.at? x with
  | none =>
    rw [hsource] at h
    cases hlocate : t.locate p <;> simp [hlocate] at h
  | some e =>
    cases e with
    | dir =>
      rw [hsource] at h
      cases hlocate : t.locate p <;> simp [hlocate] at h
    | file content =>
      cases hlocate : t.locate p with
      | error e => simp [hsource, hlocate] at h
      | ok found =>
        obtain ⟨y, o⟩ := found
        obtain ⟨rfl, ho⟩ := locate_ok hlocate
        simp only [hsource, hlocate] at h
        split at h
        next => cases h
        next =>
          split at h
          next => cases h
          next happart =>
            have hroot : t.at? (t.place p) ≠ some .dir → t.place p ≠ [] := by
              rintro hdir hnil
              exact hdir (by rw [hnil]; rfl)
            have hne : t.place p ≠ [] → t.place p ≠ x := by
              rintro hnil rfl
              exact happart (by simp [hnil])
            cases o with
            | none =>
              have hdir : t.at? (t.place p) ≠ some .dir := by simp [← ho]
              simp only at h
              split at h
              · exact ⟨content, rfl, hne (hroot hdir), hroot hdir, hdir, ⟨_, rfl⟩,
                  (Except.ok.inj h).symm⟩
              · cases h
            | some old =>
              cases old with
              | dir => cases h
              | file => 
                have hdir : t.at? (t.place p) ≠ some .dir := by simp [← ho]
                exact ⟨content, rfl, hne (hroot hdir), hroot hdir, hdir, ⟨_, rfl⟩,
                  (Except.ok.inj h).symm⟩

/-- Trees to which directories were added on the way to a path. -/
inductive Making (t : FileTree) (p : Path) : FileTree → Prop
  | start : Making t p t
  | mkdir {u v : FileTree} {q : Path} (h : Making t p u) (onWay : q.LeadsTo p)
      (made : u.mkdir q = .ok v) : Making t p v

theorem making_go {depth : Nat} {q : Path} (onWay : q.LeadsTo p) (h : Making t p u) :
    Making t p (mkdirs.go depth u q).1 := by
  induction depth generalizing u q with
  | zero =>
    rw [mkdirs.go]
    cases hmade : u.mkdir q with
    | ok v => exact .mkdir h onWay hmade
    | error e =>
      simp only
      split
      · exact h
      · split
        · exact h
        · exact h
  | succ depth ih =>
    rw [mkdirs.go]
    cases hmade : u.mkdir q with
    | ok v => exact .mkdir h onWay hmade
    | error e =>
      simp only
      split
      next =>
        have habove := ih (q.parent_leadsTo.trans onWay) h
        generalize mkdirs.go depth u q.parent = found at habove
        obtain ⟨v, failure⟩ := found
        cases failure with
        | some e => exact habove
        | none =>
          cases hagain : v.mkdir q with
          | ok w => simpa [hagain] using .mkdir habove onWay hagain
          | error e =>
            simp only [hagain]
            split
            · exact habove
            · exact habove
      next =>
        split
        · exact h
        · exact h

theorem mkdirs_making (t : FileTree) (p : Path) : Making t p (t.mkdirs p).1 :=
  making_go (.refl p) .start

theorem Making.cwd (h : Making t p u) : u.cwd = t.cwd := by
  induction h with
  | start => rfl
  | mkdir _ _ made ih =>
    rw [(mkdir_ok made).2]
    exact ih

/-- What was there stays, and what is new are directories on the way. -/
theorem Making.at? (h : Making t p u) (x : Place) :
    u.at? x = t.at? x ∨
      t.at? x = none ∧ u.at? x = some .dir ∧ ∃ q : Path, q.LeadsTo p ∧ x = t.place q := by
  induction h with
  | start => exact .inl rfl
  | @mkdir u v q making onWay made ih =>
    obtain ⟨hnone, rfl⟩ := mkdir_ok made
    rw [place_congr making.cwd] at hnone ⊢
    rw [at?_put u .dir (ne_nil_of_at? hnone)]
    split
    next heq =>
      subst heq
      rcases ih with hsame | ⟨-, hdir, -⟩
      · exact .inr ⟨hsame.symm.trans hnone, rfl, q, onWay, rfl⟩
      · rw [hnone] at hdir
        cases hdir
    next => exact ih

end FileTree

end ToolHost.Machine

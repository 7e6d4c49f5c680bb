import Mathlib
import ToolHost.Terminal.Markup

/-!
# Text protected from markup

A text whose would-be tags are protected by backslashes is read as text, also in front of a tag.
Nothing but backslashes is added to it, each of them before a bracket, so that no tag comes about
where there was none; and the backslashes before what looks like a tag become odd in number.
-/
namespace ToolHost.Terminal.Markup

variable {c : Char} {s rest inside behind : List Char} {tags : List Tag}

/-! ## Tags -/

/-- A character that may stand inside a tag. -/
def isInside (c : Char) : Bool := c != ']' && c != '['

theorem tag?_cons (c : Char) (rest : List Char) : tag? (c :: rest) =
    if beginsTag c then
      match rest.dropWhile isInside with
      | ']' :: behind => some (c :: rest.takeWhile isInside, behind)
      | _ => none
    else none := by
  have hdrop : rest.drop (rest.takeWhile isInside).length = rest.dropWhile isInside := by
    have hrest := List.takeWhile_append_dropWhile (p := isInside) (l := rest)
    exact (congrArg _ hrest.symm).trans List.drop_left
  unfold isInside at hdrop ⊢
  simp only [tag?, hdrop]
  cases beginsTag c <;> rfl

/-- What is no tag does not begin like one, or does not end. -/
theorem tag?_cons_eq_none : tag? (c :: rest) = none ↔
    (beginsTag c = true → (rest.dropWhile isInside).head? ≠ some ']') := by
  rw [tag?_cons]
  cases beginsTag c with
  | false => simp
  | true =>
    cases h : rest.dropWhile isInside with
    | nil => simp
    | cons d behind =>
      by_cases hd : d = ']'
      · subst hd
        simp
      · simp [hd]

/-- A tag ends at the first bracket, and it ends there whatever stands behind it. -/
theorem tag?_eq_some (h : tag? s = some (inside, behind)) :
    s = inside ++ ']' :: behind ∧ ∀ rest, tag? (inside ++ ']' :: rest) = some (inside, rest) := by
  cases s with
  | nil => cases h
  | cons c tail =>
    rw [tag?_cons] at h
    split at h
    next hbegins =>
      split at h
      next behind' hdrop =>
        obtain ⟨rfl, rfl⟩ := Prod.mk.inj (Option.some.inj h)
        refine ⟨?_, fun rest => ?_⟩
        · rw [List.cons_append, ← hdrop, List.takeWhile_append_dropWhile]
        · have hall := List.all_takeWhile (p := isInside) (l := tail)
          rw [List.all_eq_true] at hall
          rw [List.cons_append, tag?_cons, if_pos hbegins,
            List.dropWhile_append_of_pos hall, List.takeWhile_append_of_pos hall]
          simp [isInside]
      next => cases h
    next => cases h

/-! ## Adding backslashes -/

theorem escapeFrom_nil (fuel n : Nat) : escapeFrom fuel n [] = backslashes n := by
  cases fuel <;> rfl

theorem escapeFrom_slash (fuel n : Nat) (rest : List Char) :
    escapeFrom (fuel + 1) n ('\\' :: rest) = escapeFrom fuel (n + 1) rest := rfl

theorem escapeFrom_tag (fuel n : Nat) (h : tag? rest = some (inside, behind)) :
    escapeFrom (fuel + 1) n ('[' :: rest) =
      backslashes (2 * n + 1) ++ '[' :: inside ++ ']' :: escapeFrom fuel 0 behind := by
  simp [escapeFrom, h]

theorem escapeFrom_char (fuel n : Nat) (hc : c ≠ '\\') (h : c = '[' → tag? rest = none) :
    escapeFrom (fuel + 1) n (c :: rest) = backslashes n ++ c :: escapeFrom fuel 0 rest := by
  rw [escapeFrom, if_neg hc]
  rintro inside behind rfl htag
  rw [h rfl] at htag
  cases htag

/-- What a text begins with: a backslash, a tag, or a character. -/
theorem beginning (c : Char) (rest : List Char) : c = '\\' ∨
    (c = '[' ∧ ∃ inside behind, tag? rest = some (inside, behind)) ∨
    (c ≠ '\\' ∧ (c = '[' → tag? rest = none)) := by
  by_cases hc : c = '\\'
  · exact .inl hc
  by_cases hbracket : c = '['
  · cases htag : tag? rest with
    | none => exact .inr (.inr ⟨hc, fun _ => rfl⟩)
    | some p => exact .inr (.inl ⟨hbracket, p.1, p.2, rfl⟩)
  · exact .inr (.inr ⟨hc, fun h => absurd h hbracket⟩)

theorem dropWhile_backslashes (n : Nat) (s : List Char) :
    (backslashes n ++ s).dropWhile isInside = s.dropWhile isInside := by
  refine List.dropWhile_append_of_pos fun c hc => ?_
  rw [List.eq_of_mem_replicate hc]
  rfl

/-- A bracket that opens ends no tag, with whatever backslashes before it. -/
theorem dropWhile_opening (k : Nat) (s : List Char) :
    ((backslashes k ++ '[' :: s).dropWhile isInside).head? ≠ some ']' := by
  rw [dropWhile_backslashes]
  simp [isInside]

/-- What does not end a tag does not end one with backslashes added either. -/
theorem dropWhile_escapeFrom (fuel n k : Nat) (s tail : List Char)
    (h : (s.dropWhile isInside).head? ≠ some ']') :
    ((escapeFrom fuel n s ++ (backslashes k ++ '[' :: tail)).dropWhile isInside).head? ≠
      some ']' := by
  induction fuel generalizing n s with
  | zero =>
    rw [escapeFrom, dropWhile_backslashes]
    exact dropWhile_opening k tail
  | succ fuel ih =>
    cases s with
    | nil =>
      rw [escapeFrom_nil, dropWhile_backslashes]
      exact dropWhile_opening k tail
    | cons c rest =>
      rcases beginning c rest with rfl | ⟨rfl, inside, behind, htag⟩ | ⟨hc, hplain⟩
      · exact ih _ rest (by simpa [isInside] using h)
      · rw [escapeFrom_tag fuel n htag, List.append_assoc, List.append_assoc]
        exact dropWhile_opening _ _
      · rw [escapeFrom_char fuel n hc hplain, List.append_assoc, dropWhile_backslashes,
          List.cons_append]
        by_cases hin : isInside c = true
        · rw [List.dropWhile_cons_of_pos hin] at h ⊢
          exact ih _ rest h
        · rw [List.dropWhile_cons_of_neg hin] at h ⊢
          simpa using h

theorem escapeFrom_succ (fuel n : Nat) (s : List Char) :
    ∃ t, escapeFrom fuel (n + 1) s = '\\' :: t := by
  induction fuel generalizing n s with
  | zero => exact ⟨_, rfl⟩
  | succ fuel ih =>
    cases s with
    | nil => exact ⟨_, rfl⟩
    | cons c rest =>
      rcases beginning c rest with rfl | ⟨rfl, inside, behind, htag⟩ | ⟨hc, hplain⟩
      · exact ih (n + 1) rest
      · exact ⟨_, escapeFrom_tag fuel (n + 1) htag⟩
      · exact ⟨_, escapeFrom_char fuel (n + 1) hc hplain⟩

/-- What is no tag is none with backslashes added. -/
theorem tag?_escapeFrom (fuel k : Nat) (tail : List Char) (h : tag? s = none) :
    tag? (escapeFrom fuel 0 s ++ (backslashes k ++ '[' :: tail)) = none := by
  have plain (d : Char) (s : List Char) (hd : beginsTag d = false) : tag? (d :: s) = none := by
    rw [tag?_cons, hd]
    rfl
  have opening : tag? (backslashes k ++ '[' :: tail) = none := by
    cases k with
    | zero => exact plain _ _ (by decide)
    | succ k => exact plain _ _ (by decide)
  cases fuel with
  | zero => exact opening
  | succ fuel =>
    cases s with
    | nil => exact opening
    | cons c rest =>
      rcases beginning c rest with rfl | ⟨rfl, inside, behind, htag⟩ | ⟨hc, hplain⟩
      · obtain ⟨t, ht⟩ := escapeFrom_succ fuel 0 rest
        rw [escapeFrom_slash, ht]
        exact plain _ _ (by decide)
      · rw [escapeFrom_tag fuel 0 htag]
        exact plain _ _ (by decide)
      · have hshape : escapeFrom (fuel + 1) 0 (c :: rest) = c :: escapeFrom fuel 0 rest :=
          escapeFrom_char fuel 0 hc hplain
        rw [hshape, List.cons_append, tag?_cons_eq_none]
        exact fun hbegins =>
          dropWhile_escapeFrom fuel 0 k rest tail (tag?_cons_eq_none.mp h hbegins)

/-! ## Reading it back -/

theorem pieces_nil (fuel n : Nat) (plain : List Char) :
    pieces fuel plain n [] = textPiece (plain.reverse ++ backslashes n) := by
  cases fuel <;> rfl

theorem pieces_slash (fuel n : Nat) (plain rest : List Char) :
    pieces (fuel + 1) plain n ('\\' :: rest) = pieces fuel plain (n + 1) rest := rfl

theorem pieces_backslashes (fuel n m : Nat) (plain s : List Char) :
    pieces (fuel + n) plain m (backslashes n ++ s) = pieces fuel plain (m + n) s := by
  induction n generalizing m with
  | zero => rfl
  | succ n ih =>
    rw [backslashes, List.replicate_succ, List.cons_append, ← Nat.add_assoc, pieces_slash,
      ← backslashes, ih, Nat.add_right_comm, Nat.add_assoc]

theorem pieces_tag (fuel n : Nat) (plain : List Char) (h : tag? rest = some (inside, behind)) :
    pieces (fuel + 1) plain n ('[' :: rest) =
      textPiece plain.reverse ++ textPiece (backslashes (n / 2)) ++
        (if n % 2 = 1 then .text ('[' :: inside ++ [']']) else tagPiece inside) ::
        pieces fuel [] 0 behind := by
  simp [pieces, h]

theorem pieces_char (fuel n : Nat) (plain : List Char) (hc : c ≠ '\\')
    (h : c = '[' → tag? rest = none) :
    pieces (fuel + 1) plain n (c :: rest) = pieces fuel (c :: (backslashes n ++ plain)) 0 rest := by
  rw [pieces, if_neg hc]
  rintro inside behind rfl htag
  rw [h rfl] at htag
  cases htag

/-- Whether pieces show under some open tags. -/
def Shows (tags : List Tag) (ps : List Piece) : Prop := ∃ cs, shown tags ps = .ok cs

theorem Shows.text {ps : List Piece} (h : Shows tags ps) (chars : List Char) :
    Shows tags (.text chars :: ps) := by
  obtain ⟨cs, hcs⟩ := h
  exact ⟨_, by rw [shown, hcs]; rfl⟩

theorem Shows.textPiece {ps : List Piece} (h : Shows tags ps) (chars : List Char) :
    Shows tags (Markup.textPiece chars ++ ps) := by
  unfold Markup.textPiece
  split
  · exact h
  · exact h.text chars

/-- A protected text shows if what stands behind it does, with whatever backslashes before that. -/
theorem shows_escapeFrom {tail : List Char} {least : Nat}
    (htail : ∀ fuel plain n, least ≤ fuel → Shows tags (pieces fuel plain n ('[' :: tail)))
    {fuel n k room : Nat} {plain : List Char} (hfuel : s.length < fuel)
    (hroom : (escapeFrom fuel n s).length + k + least ≤ room) :
    Shows tags (pieces room plain 0 (escapeFrom fuel n s ++ (backslashes k ++ '[' :: tail))) := by
  induction fuel generalizing n s room plain with
  | zero => exact absurd hfuel (Nat.not_lt_zero _)
  | succ fuel ih =>
    cases s with
    | nil =>
      rw [escapeFrom_nil] at hroom ⊢
      simp only [backslashes, List.length_replicate] at hroom
      obtain ⟨left, rfl⟩ : ∃ left, room = left + k + n := ⟨room - k - n, by omega⟩
      rw [pieces_backslashes, pieces_backslashes]
      exact htail _ _ _ (by omega)
    | cons c rest =>
      rcases beginning c rest with rfl | ⟨rfl, inside, behind, htag⟩ | ⟨hc, hplain⟩
      · rw [escapeFrom_slash] at hroom ⊢
        exact ih (by simpa using hfuel) hroom
      · obtain ⟨hrest, hagain⟩ := tag?_eq_some htag
        rw [escapeFrom_tag fuel n htag] at hroom ⊢
        rw [hrest] at hfuel
        simp only [List.length_append, List.length_cons, backslashes, List.length_replicate]
          at hroom hfuel
        obtain ⟨left, rfl⟩ : ∃ left, room = left + 1 + (2 * n + 1) :=
          ⟨room - (2 * n + 2), by omega⟩
        -- What looks like a tag is read as text, since the backslashes before it are odd in number.
        rw [List.append_assoc, List.append_assoc, pieces_backslashes, List.cons_append,
          List.cons_append, pieces_tag left _ plain (hagain _), if_pos (by omega),
          List.append_assoc]
        refine Shows.textPiece (Shows.textPiece (Shows.text ?_ _) _) _
        exact ih (by omega) (by omega)
      · rw [escapeFrom_char fuel n hc hplain] at hroom ⊢
        simp only [List.length_append, List.length_cons, backslashes, List.length_replicate]
          at hroom hfuel
        obtain ⟨left, rfl⟩ : ∃ left, room = left + 1 + n := ⟨room - (n + 1), by omega⟩
        rw [List.append_assoc, pieces_backslashes, List.cons_append,
          pieces_char left _ plain hc fun h => tag?_escapeFrom fuel k tail (hplain h)]
        exact ih (by omega) (by omega)

/-- A protected text, with one more backslash at its end or none. -/
theorem toList_escape (s : String) : ∃ k,
    (escape s).toList = escapeFrom (s.length + 1) 0 s.toList ++ backslashes k := by
  rw [escape]
  split
  · exact ⟨1, String.toList_ofList⟩
  · exact ⟨0, by simp [backslashes]⟩

theorem pieces_plain {lead : List Char} (hlead : ∀ c ∈ lead, c ≠ '\\' ∧ c ≠ '[') (fuel : Nat)
    (plain s : List Char) :
    pieces (fuel + lead.length) plain 0 (lead ++ s) = pieces fuel (lead.reverse ++ plain) 0 s := by
  induction lead generalizing plain with
  | nil => rfl
  | cons c lead ih =>
    obtain ⟨hc, hlead⟩ := List.forall_mem_cons.mp hlead
    rw [List.length_cons, ← Nat.add_assoc, List.cons_append,
      pieces_char _ 0 _ hc.1 fun h => absurd h hc.2]
    exact (ih hlead _).trans (by simp [backslashes])

/-! ## Styles -/

/-- The name of a style that a tag may begin, and end. -/
structure IsStyle (name : List Char) : Prop where
  opens : ∀ rest, tag? (name ++ ']' :: rest) = some (name, rest)
  closes : tag? ('/' :: name ++ [']']) = some ('/' :: name, [])
  begins : ∀ ps, shown [] (tagPiece name :: ps) = shown [⟨name, none⟩] ps
  ends : shown [⟨name, none⟩] [tagPiece ('/' :: name)] = .ok []

theorem isStyle_dim : IsStyle "dim".toList where
  opens _ := rfl
  closes := by decide
  begins ps := by
    have name : plainStyle "dim".toList = .ok "dim".toList := by decide +kernel
    change (plainStyle "dim".toList >>= fun name => shown [⟨name, none⟩] ps) = _
    rw [name]
    rfl
  ends := by decide +kernel

theorem isStyle_red : IsStyle "red".toList where
  opens _ := rfl
  closes := by decide
  begins ps := by
    have name : plainStyle "red".toList = .ok "red".toList := by decide +kernel
    change (plainStyle "red".toList >>= fun name => shown [⟨name, none⟩] ps) = _
    rw [name]
    rfl
  ends := by decide +kernel

/-- A protected text can be shown in a style, behind some other text without brackets. -/
theorem render_protected {name : List Char} (lead : List Char) (style : IsStyle name)
    (hlead : ∀ c ∈ lead, c ≠ '\\' ∧ c ≠ '[') {s markup : String}
    (hmarkup : markup.toList = '[' :: (name ++ ']' ::
      (lead ++ ((escape s).toList ++ '[' :: '/' :: name ++ [']'])))) :
    ∃ cs, render markup = .ok cs := by
  have closing (fuel : Nat) (plain : List Char) (n : Nat) (hfuel : 1 ≤ fuel) :
      Shows [⟨name, none⟩] (pieces fuel plain n ('[' :: ('/' :: name ++ [']']))) := by
    obtain ⟨left, rfl⟩ : ∃ left, fuel = left + 1 := ⟨fuel - 1, by omega⟩
    rw [pieces_tag left n plain style.closes, pieces_nil, List.append_assoc]
    refine Shows.textPiece (Shows.textPiece ?_ _) _
    split
    · exact Shows.text ⟨[], rfl⟩ _
    · exact ⟨[], style.ends⟩
  obtain ⟨k, hescape⟩ := toList_escape s
  have hlength : s.toList.length < s.length + 1 :=
    Nat.lt_succ_of_le (Nat.le_of_eq String.length_toList)
  obtain ⟨room, hroom⟩ : ∃ room, room = (escapeFrom (s.length + 1) 0 s.toList).length + k +
      name.length + name.length + 5 := ⟨_, rfl⟩
  have hmarkup : markup.toList = '[' :: (name ++ ']' :: (lead ++
      (escapeFrom (s.length + 1) 0 s.toList ++
        (backslashes k ++ '[' :: ('/' :: name ++ [']']))))) := by
    rw [hmarkup, hescape]
    simp
  have hall : markup.length + 1 = room + lead.length + 1 := by
    rw [← String.length_toList, hmarkup, hroom]
    simp only [backslashes, List.length_cons, List.length_append, List.length_replicate,
      List.length_nil]
    omega
  have hleast : (escapeFrom (s.length + 1) 0 s.toList).length + k + 1 ≤ room := by omega
  have hshows : Shows [⟨name, none⟩] (pieces room (lead.reverse ++ []) 0
      (escapeFrom (s.length + 1) 0 s.toList ++ (backslashes k ++ '[' :: ('/' :: name ++ [']'])))) :=
    shows_escapeFrom closing hlength hleast
  obtain ⟨cs, hcs⟩ := hshows
  rw [render, hall, hmarkup, pieces_tag _ 0 [] (style.opens _), pieces_plain hlead]
  exact ⟨_, congrArg _ ((style.begins _).trans hcs)⟩

/-- A protected text can be shown as a command. -/
theorem render_command (s : String) : ∃ cs, render ("[dim]$ " ++ escape s ++ "[/dim]") = .ok cs :=
  render_protected ['$', ' '] isStyle_dim (by simp) (s := s) (by simp)

end ToolHost.Terminal.Markup

import Mathlib.Data.List.TakeWhile
import ToolHost.Proofs.Terminal.Lexemes

/-!
# Output in portions

What the filter holds back of one portion goes in front of the next, so all that it reads is, cut
anew, the output as a whole. Where a cut falls between two lexemes, and no carriage return sees it,
the lexemes on both sides of it are those of the whole.
-/
namespace ToolHost.Terminal

/-! ### What is held back -/

theorem holdBack_parts (s : List Char) : (holdBack s).1 ++ (holdBack s).2 = s := by
  fun_induction holdBack s with
  | case1 => rfl
  | case2 => rfl
  | case3 c rest _ now held hrest ih =>
    rw [hrest] at ih
    simpa using ih

/-- Nothing is held back from a text without an ESC. -/
theorem holdBack_append_of_notMem {s : List Char} (h : esc ∉ s) (rest : List Char) :
    holdBack (s ++ rest) = (s ++ (holdBack rest).1, (holdBack rest).2) := by
  induction s with
  | nil => rfl
  | cons c s ih =>
    obtain ⟨hc, hs⟩ := not_or.1 (mt List.mem_cons.2 h)
    rw [List.cons_append, holdBack, ih hs, if_neg (by simp [Ne.symm hc])]
    rfl

theorem endsHere_of_append {s t : List Char} (h : endsHere (s ++ t)) : endsHere s := by
  simp only [endsHere, Bool.or_eq_true, List.isEmpty_iff, decide_eq_true_eq] at h ⊢
  obtain h | h := h
  · exact .inl (List.append_eq_nil_iff.1 h).1
  · obtain h | h := List.append_eq_singleton_iff.1 h
    · exact .inl h.1
    · exact .inr h.1

/-- What may be unfinished was so before its end came. -/
theorem isUnfinished_of_append {s t : List Char} (h : isUnfinished (s ++ t)) : isUnfinished s := by
  fun_cases isUnfinished s with
  | case1 params =>
    simp only [List.cons_append, isUnfinished, List.dropWhile_append] at h
    split at h
    · next hparams => simp [endsHere, hparams]
    · exact endsHere_of_append h
  | case2 payload =>
    simp only [List.cons_append, isUnfinished, List.all_append, Bool.and_eq_true] at h
    exact h.1
  | case3 _ hcontrol hcommand =>
    obtain _ | ⟨c, rest⟩ := s
    · rfl
    · have hopen : isUnfinished (c :: (rest ++ t)) = endsHere (c :: rest ++ t) := by
        rw [isUnfinished]
        · rfl
        · rintro params ⟨⟩
          exact hcontrol _ rfl
        · rintro payload ⟨⟩
          exact hcommand _ rfl
      rw [List.cons_append, hopen] at h
      exact endsHere_of_append h

/-- What was read before more output came stays read, and nothing else was. -/
theorem holdBack_append (s t : List Char) :
    holdBack (s ++ t) =
      ((holdBack s).1 ++ (holdBack ((holdBack s).2 ++ t)).1,
        (holdBack ((holdBack s).2 ++ t)).2) := by
  fun_induction holdBack s with
  | case1 => simp
  | case2 c rest h => simp
  | case3 c rest h now held hrest ih =>
    rw [hrest] at ih
    have hopen : ¬(c = esc && isUnfinished (rest ++ t)) := by
      simp only [Bool.and_eq_true, decide_eq_true_eq, not_and] at h ⊢
      exact fun hc hu => h hc (isUnfinished_of_append hu)
    rw [List.cons_append, holdBack, if_neg hopen, ih]
    simp

@[simp] theorem holdBack_held (s : List Char) :
    holdBack (holdBack s).2 = ([], (holdBack s).2) := by
  have h := holdBack_append s []
  simp only [List.append_nil] at h
  have hfirst := congrArg (·.1.length) h
  have hsecond := congrArg Prod.snd h
  simp only [List.length_append, Nat.left_eq_add, List.length_eq_zero_iff] at hfirst hsecond
  exact Prod.ext hfirst hsecond.symm

/-! ### Cuts between lexemes -/

/-- The last line of a stretch of output. -/
def lastLine (s : List Char) : List Char := (Text.cut '\n' s).getLastD []

/-- The first line of a stretch of output. -/
def firstLine (s : List Char) : List Char := (Text.cut '\n' s).headD []

/-- Whether a line is cut so that both parts read alone are the line: one part is nothing but
carriage returns, or no carriage return takes the first part away and the cut falls between two
lexemes. -/
def Joins (line rest : List Char) : Prop :=
  line.all (· == '\r') ∨ rest.all (· == '\r') ∨
    line.getLast? ≠ some '\r' ∧ '\r' ∉ chomp rest ∧
      lex (overwritten line ++ chomp rest) = lex (overwritten line) ++ lex (chomp rest)

instance (line rest : List Char) : Decidable (Joins line rest) :=
  inferInstanceAs (Decidable (_ ∨ _ ∨ _ ∧ _ ∧ _))

/-- Whether output read in two parts has the lexemes that it has as a whole. -/
def Apart (s t : List Char) : Prop := lexemes (s ++ t) = lexemes s ++ lexemes t

theorem apart_of_lineLexemes {s t : List Char}
    (h : lineLexemes (lastLine s ++ firstLine t) =
      lineLexemes (lastLine s) ++ lineLexemes (firstLine t)) : Apart s t := by
  obtain ⟨before, line, hs⟩ := Text.exists_cut_eq_concat '\n' s
  obtain ⟨next, after, ht⟩ := Text.exists_cut_eq_cons '\n' t
  have hline : lastLine s = line := by simp [lastLine, hs]
  have hnext : firstLine t = next := by simp [firstLine, ht]
  rw [hline, hnext] at h
  rw [Apart, lexemes, lexemes, lexemes, Text.cut_append hs ht, hs, ht, linesLexemes_append_cons,
    linesLexemes_append_cons, linesLexemes_cons, linesLexemes_cons, linesLexemes_cons, h]
  simp

theorem chomp_append_of_all {rest : List Char} (h : rest.all (· == '\r')) (line : List Char) :
    chomp (line ++ rest) = chomp line := by
  have hdrop : rest.reverse.dropWhile (· == '\r') = [] := by
    rw [List.dropWhile_eq_nil_iff]
    simpa using h
  simp [chomp, List.dropWhile_append, hdrop]

theorem chomp_append {rest : List Char} (h : ¬rest.all (· == '\r')) (line : List Char) :
    chomp (line ++ rest) = line ++ chomp rest := by
  have hdrop : rest.reverse.dropWhile (· == '\r') ≠ [] := by
    rw [ne_eq, List.dropWhile_eq_nil_iff]
    simpa using h
  simp [chomp, List.dropWhile_append, hdrop]

theorem overwritten_append {rest : List Char} (h : '\r' ∉ rest) (line : List Char) :
    overwritten (line ++ rest) = overwritten line ++ rest := by
  have htake : rest.reverse.takeWhile (· != '\r') = rest.reverse := by
    refine List.takeWhile_eq_self_iff.2 fun c hc => ?_
    have : c ≠ '\r' := fun hcr => h (hcr ▸ List.mem_reverse.1 hc)
    simpa using this
  simp [overwritten, List.takeWhile_append, htake]

theorem overwritten_of_notMem {line : List Char} (h : '\r' ∉ line) : overwritten line = line := by
  simpa [overwritten] using overwritten_append h []

theorem chomp_of_all {line : List Char} (h : line.all (· == '\r')) : chomp line = [] := by
  exact chomp_append_of_all h []

/-- Carriage returns in front of a line take nothing away from it. -/
theorem overwritten_append_of_all {line : List Char} (h : line.all (· == '\r'))
    (rest : List Char) : overwritten (line ++ rest) = overwritten rest := by
  have htake : line.reverse.takeWhile (· != '\r') = [] := by
    obtain _ | ⟨c, line, rfl⟩ := List.eq_nil_or_concat line
    · simp_all
    · simp_all
  by_cases hrest : '\r' ∈ rest
  · have : (rest.reverse.takeWhile (· != '\r')).length ≠ rest.reverse.length := fun hlength => by
      have hall := List.takeWhile_eq_self_iff.1
        ((List.takeWhile_sublist (· != '\r')).eq_of_length hlength)
      exact absurd (hall _ (List.mem_reverse.2 hrest)) (by simp)
    simp only [overwritten, List.reverse_append, List.takeWhile_append, if_neg this]
  · have hnil : overwritten line = [] := by simp [overwritten, htake]
    rw [overwritten_append hrest, hnil, overwritten_of_notMem hrest, List.nil_append]

theorem chomp_of_getLast? {line : List Char} (h : line.getLast? ≠ some '\r') :
    chomp line = line := by
  obtain rfl | ⟨init, c, rfl⟩ := List.eq_nil_or_concat line
  · rfl
  · have : c ≠ '\r' := by simpa using h
    simp [chomp, this]

/-- Where no carriage return is all of a line counts. -/
theorem lineLexemes_of_notMem {line : List Char} (h : '\r' ∉ line) :
    lineLexemes line = lex line := by
  rw [lineLexemes, chomp_of_getLast? fun hlast => h (List.mem_of_getLast? hlast),
    overwritten_of_notMem h]

/-- A line cut so keeps its lexemes. -/
theorem Joins.lineLexemes_append {line rest : List Char} (h : Joins line rest) :
    lineLexemes (line ++ rest) = lineLexemes line ++ lineLexemes rest := by
  have hnone (s : List Char) (hs : s.all (· == '\r')) : lineLexemes s = [] := by
    rw [lineLexemes, chomp_of_all hs]
    rfl
  by_cases hrest : rest.all (· == '\r')
  · rw [hnone rest hrest, List.append_nil, lineLexemes, chomp_append_of_all hrest, lineLexemes]
  · by_cases hline : line.all (· == '\r')
    · rw [hnone line hline, List.nil_append, lineLexemes, chomp_append hrest,
        overwritten_append_of_all hline, lineLexemes]
    · obtain hall | hall | ⟨hend, hfree, hlex⟩ := h
      · exact absurd hall hline
      · exact absurd hall hrest
      · rw [lineLexemes, lineLexemes, lineLexemes, chomp_append hrest, overwritten_append hfree,
          hlex, chomp_of_getLast? hend, overwritten_of_notMem hfree]

theorem apart_of_joins {s t : List Char} (h : Joins (lastLine s) (firstLine t)) : Apart s t :=
  apart_of_lineLexemes h.lineLexemes_append

/-! ### The filter over portions -/

/-- Whether something holds at every place where output in portions is cut: of what has been read
until there and what is read of the next portion. -/
def Cuts (P : List Char → List Char → Prop) (read held : List Char) : List (List Char) → Prop
  | [] => True
  | portion :: rest =>
    let next := holdBack (held ++ portion)
    P read next.1 ∧ Cuts P (read ++ next.1) next.2 rest

instance decidableCuts (P : List Char → List Char → Prop) [∀ s t, Decidable (P s t)]
    (read held : List Char) (portions : List (List Char)) : Decidable (Cuts P read held portions) :=
  match portions with
  | [] => .isTrue trivial
  | portion :: rest =>
    have := decidableCuts P (read ++ (holdBack (held ++ portion)).1) (holdBack (held ++ portion)).2
      rest
    inferInstanceAs (Decidable (_ ∧ _))

theorem Cuts.mono {P Q : List Char → List Char → Prop} (hPQ : ∀ s t, P s t → Q s t)
    {read held : List Char} {portions : List (List Char)} (h : Cuts P read held portions) :
    Cuts Q read held portions := by
  induction portions generalizing read held with
  | nil => trivial
  | cons portion rest ih => exact ⟨hPQ _ _ h.1, ih h.2⟩

/-- What is read of output in portions, portion by portion: each goes on with what was held back of
the one before it. -/
def readings (held : List Char) : List (List Char) → List (List Char)
  | [] => []
  | portion :: rest =>
    (holdBack (held ++ portion)).1 :: readings (holdBack (held ++ portion)).2 rest

/-- In portions the same is read as at once. -/
theorem flatten_readings {held : List Char} (hheld : holdBack held = ([], held))
    (portions : List (List Char)) :
    (readings held portions).flatten = (holdBack (held ++ portions.flatten)).1 := by
  induction portions generalizing held with
  | nil => simp [readings, hheld]
  | cons portion rest ih =>
    have hcut := holdBack_append (held ++ portion) rest.flatten
    rw [List.append_assoc] at hcut
    rw [readings, List.flatten_cons, List.flatten_cons, hcut, ih (holdBack_held _)]

theorem Cuts.lexemes_readings {read held : List Char} {portions : List (List Char)}
    (h : Cuts Apart read held portions) :
    lexemes (read ++ (readings held portions).flatten) =
      lexemes read ++ (readings held portions).flatMap lexemes := by
  induction portions generalizing read held with
  | nil => simp [readings]
  | cons portion rest ih =>
    obtain ⟨hapart, hrest⟩ := h
    rw [readings, List.flatten_cons, ← List.append_assoc, ih hrest, hapart, List.flatMap_cons,
      List.append_assoc]

namespace Filter

/-- What all portions show, one after another, and the filter behind them; nothing if one of them
cannot be read. -/
def feedAll (f : Filter) : List (List Char) → Option (StyledText × Filter)
  | [] => some ([], f)
  | portion :: rest =>
    if f.canRead portion then
      ((f.feed portion).2.feedAll rest).map fun r => ((f.feed portion).1 ++ r.1, r.2)
    else none

/-- What all portions and then the end of the output show. -/
def readAll (f : Filter) (portions : List (List Char)) : Option StyledText :=
  (f.feedAll portions).map fun r => r.1 ++ r.2.flush.1

theorem feed_eq (f : Filter) (portion : List Char) :
    (f.feed portion).1.cells = paint f.style (lexemes (holdBack (f.held ++ portion)).1) ∧
      (f.feed portion).2 = ⟨restyle f.style (lexemes (holdBack (f.held ++ portion)).1),
        (holdBack (f.held ++ portion)).2⟩ := by
  obtain ⟨hcells, hstyle⟩ := readText_eq f.style (holdBack (f.held ++ portion)).1
  exact ⟨hcells, by rw [← hstyle]; rfl⟩

theorem canRead_iff (f : Filter) (portion : List Char) :
    f.canRead portion ↔
      ∀ lexeme ∈ lexemes (holdBack (f.held ++ portion)).1, lexeme.isReadable :=
  isReadableText_iff _

/-- The filter shows what the lexemes of all readings show, one after another, and is left with what
is held back of the output as a whole. -/
theorem feedAll_readings {f : Filter} (hheld : holdBack f.held = ([], f.held))
    (portions : List (List Char)) :
    (f.feedAll portions).map (fun r => (r.1.cells, r.2)) =
      if ∀ lexeme ∈ (readings f.held portions).flatMap lexemes, lexeme.isReadable then
        some (paint f.style ((readings f.held portions).flatMap lexemes),
          ⟨restyle f.style ((readings f.held portions).flatMap lexemes),
            (holdBack (f.held ++ portions.flatten)).2⟩)
      else none := by
  induction portions generalizing f with
  | nil => simp [feedAll, readings, hheld, paint]
  | cons portion rest ih =>
    obtain ⟨hcells, hnext⟩ := f.feed_eq portion
    have hfed := ih (f := (f.feed portion).2) (by simp [hnext])
    have hcut := holdBack_append (f.held ++ portion) rest.flatten
    rw [List.append_assoc] at hcut
    rw [hnext] at hfed
    rw [List.flatten_cons, hcut, readings, List.flatMap_cons, feedAll]
    have hread := f.canRead_iff portion
    by_cases hall : f.canRead portion
    · have hmap := congrArg (Option.map fun r => ((f.feed portion).1.cells ++ r.1, r.2)) hfed
      rw [if_pos hall]
      have hboth : (∀ lexeme ∈ lexemes (holdBack (f.held ++ portion)).1 ++
          (readings (holdBack (f.held ++ portion)).2 rest).flatMap lexemes, lexeme.isReadable) ↔
          ∀ lexeme ∈ (readings (holdBack (f.held ++ portion)).2 rest).flatMap lexemes,
            lexeme.isReadable := by
        simp only [List.mem_append, or_imp, forall_and, and_iff_right_iff_imp]
        exact fun _ => hread.1 hall
      rw [if_congr hboth rfl rfl]
      split at hmap <;> rename_i hmore
      · rw [if_pos hmore]
        simpa [Function.comp_def, hcells, hnext] using hmap
      · rw [if_neg hmore]
        simpa [Function.comp_def, hnext] using hmap
    · have hboth : ¬∀ lexeme ∈ lexemes (holdBack (f.held ++ portion)).1 ++
          (readings (holdBack (f.held ++ portion)).2 rest).flatMap lexemes,
          lexeme.isReadable := fun hboth =>
        hall (hread.2 fun lexeme hmem => hboth lexeme (List.mem_append_left _ hmem))
      rw [if_neg hall, if_neg hboth]
      rfl

/-- The filter shows of all portions what the lexemes of the output as a whole show, given that
every cut falls between lexemes. -/
theorem feedAll_eq {f : Filter} {read : List Char} {portions : List (List Char)}
    (hheld : holdBack f.held = ([], f.held)) (h : Cuts Apart read f.held portions) :
    ∃ more, lexemes (read ++ (holdBack (f.held ++ portions.flatten)).1) = lexemes read ++ more ∧
      (f.feedAll portions).map (fun r => (r.1.cells, r.2)) =
        if ∀ lexeme ∈ more, lexeme.isReadable then
          some (paint f.style more, ⟨restyle f.style more,
            (holdBack (f.held ++ portions.flatten)).2⟩)
        else none := by
  refine ⟨(readings f.held portions).flatMap lexemes, ?_, feedAll_readings hheld portions⟩
  rw [← flatten_readings hheld, h.lexemes_readings]

end Filter

end ToolHost.Terminal

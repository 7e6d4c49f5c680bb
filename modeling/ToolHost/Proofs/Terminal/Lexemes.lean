import ToolHost.Terminal.Filter

/-!
# Output as a sequence of lexemes

What a stretch of output shows is told lexeme by lexeme: those of its lines, with a line feed
after each line but the last. A lexeme shows at most one cell, and hands a style on to the next.
-/
namespace ToolHost.Text

theorem cut_cons_self (sep : Char) (s : List Char) : cut sep (sep :: s) = [] :: cut sep s := by
  simp [cut]

theorem cut_cons_ne {sep c : Char} {s : List Char} {piece : List Char} {pieces : List (List Char)}
    (hc : c ≠ sep) (hs : cut sep s = piece :: pieces) :
    cut sep (c :: s) = (c :: piece) :: pieces := by
  simp [cut, hc, hs]

theorem exists_cut_eq_cons (sep : Char) (s : List Char) :
    ∃ piece pieces, cut sep s = piece :: pieces :=
  List.exists_cons_of_ne_nil (cut_ne_nil sep s)

theorem exists_cut_eq_concat (sep : Char) (s : List Char) :
    ∃ pieces piece, cut sep s = pieces ++ [piece] := by
  obtain h | h := List.eq_nil_or_concat (cut sep s)
  · exact absurd h (cut_ne_nil sep s)
  · simpa using h

/-- The last piece of a text goes on with the first piece of what follows. -/
theorem cut_append {sep : Char} {s t a b : List Char} {before after : List (List Char)}
    (hs : cut sep s = before ++ [a]) (ht : cut sep t = b :: after) :
    cut sep (s ++ t) = before ++ (a ++ b) :: after := by
  induction s generalizing before a with
  | nil =>
    have hone : before ++ [a] = [] ++ [[]] := hs.symm
    obtain ⟨rfl, ha⟩ := List.append_inj' hone rfl
    obtain rfl := List.singleton_inj.1 ha
    simp [ht]
  | cons c s ih =>
    by_cases hc : c = sep
    · subst hc
      rw [cut_cons_self] at hs
      obtain _ | ⟨first, before⟩ := before
      · exact absurd (List.cons.inj hs).2 (cut_ne_nil c s)
      · obtain ⟨rfl, hrest⟩ := List.cons.inj hs
        rw [List.cons_append, cut_cons_self, ih hrest]
        rfl
    · obtain ⟨piece, pieces, hp⟩ := exists_cut_eq_cons sep s
      rw [cut_cons_ne hc hp] at hs
      obtain _ | ⟨first, before⟩ := before
      · obtain ⟨rfl, rfl⟩ := List.cons.inj hs
        have hjoined : cut sep (s ++ t) = [] ++ (piece ++ b) :: after := ih hp
        rw [List.cons_append, cut_cons_ne hc hjoined]
        rfl
      · obtain ⟨rfl, rfl⟩ := List.cons.inj hs
        have hjoined : cut sep (s ++ t) = (piece :: before) ++ (a ++ b) :: after := ih hp
        rw [List.cons_append, cut_cons_ne hc hjoined]
        rfl

theorem sublist_of_mem_cut {sep : Char} {s piece : List Char} (h : piece ∈ cut sep s) :
    piece.Sublist s ∧ sep ∉ piece := by
  induction s generalizing piece with
  | nil => simp_all [cut]
  | cons c s ih =>
    by_cases hc : c = sep
    · subst hc
      rw [cut_cons_self] at h
      obtain rfl | h := List.mem_cons.1 h
      · simp
      · exact ⟨(ih h).1.cons c, (ih h).2⟩
    · obtain ⟨first, pieces, hp⟩ := exists_cut_eq_cons sep s
      rw [cut_cons_ne hc hp] at h
      obtain rfl | h := List.mem_cons.1 h
      · have hfirst := ih (hp ▸ List.mem_cons_self)
        exact ⟨hfirst.1.cons_cons c, by simp [hfirst.2, Ne.symm hc]⟩
      · have hpiece := ih (hp ▸ List.mem_cons_of_mem _ h)
        exact ⟨hpiece.1.cons c, hpiece.2⟩

end ToolHost.Text

namespace ToolHost.Terminal

/-- The style after a lexeme. -/
def Lexeme.restyle (style : Style) : Lexeme → Style
  | .rendition params => style.render params
  | .command payload => style.command payload
  | _ => style

/-- What a lexeme shows. A line feed has no style. -/
def Lexeme.cells (style : Style) : Lexeme → List (Char × Style)
  | .char c => if c = '\n' then [(c, none)] else if isUnshown c then [] else [(c, style)]
  | _ => []

/-- The style after lexemes. -/
def restyle (style : Style) (lexemes : List Lexeme) : Style := lexemes.foldl Lexeme.restyle style

/-- What lexemes show, one after another. -/
def paint (style : Style) : List Lexeme → List (Char × Style)
  | [] => []
  | lexeme :: rest => lexeme.cells style ++ paint (lexeme.restyle style) rest

@[simp] theorem restyle_nil (style : Style) : restyle style [] = style := rfl

@[simp] theorem restyle_cons (style : Style) (lexeme : Lexeme) (rest : List Lexeme) :
    restyle style (lexeme :: rest) = restyle (lexeme.restyle style) rest := rfl

@[simp] theorem restyle_append (style : Style) (first second : List Lexeme) :
    restyle style (first ++ second) = restyle (restyle style first) second :=
  List.foldl_append

@[simp] theorem paint_append (style : Style) (first second : List Lexeme) :
    paint style (first ++ second) = paint style first ++ paint (restyle style first) second := by
  induction first generalizing style with
  | nil => rfl
  | cons lexeme first ih => simp [paint, ih]

/-! ### Lines -/

/-- The lexemes of a line that count. -/
def lineLexemes (line : List Char) : List Lexeme := lex (overwritten (chomp line))

/-- The lexemes of lines one after another. -/
def linesLexemes : List (List Char) → List Lexeme
  | [] => []
  | [line] => lineLexemes line
  | line :: rest => lineLexemes line ++ .char '\n' :: linesLexemes rest

/-- The lexemes of any stretch of output. -/
def lexemes (s : List Char) : List Lexeme := linesLexemes (Text.cut '\n' s)

@[simp] theorem lexemes_nil : lexemes [] = [] := rfl

theorem linesLexemes_cons (line : List Char) (rest : List (List Char)) :
    linesLexemes (line :: rest) =
      lineLexemes line ++ rest.flatMap fun line => .char '\n' :: lineLexemes line := by
  induction rest generalizing line with
  | nil => simp [linesLexemes]
  | cons next rest ih => simp [linesLexemes, ih]

theorem linesLexemes_append_cons (before : List (List Char)) (line : List Char)
    (rest : List (List Char)) :
    linesLexemes (before ++ line :: rest) =
      (before.flatMap fun line => lineLexemes line ++ [.char '\n']) ++
        linesLexemes (line :: rest) := by
  induction before with
  | nil => rfl
  | cons first before ih =>
    obtain _ | ⟨second, before⟩ := before
    · simp [linesLexemes]
    · simp only [List.cons_append, linesLexemes] at ih ⊢
      rw [ih]
      simp

theorem overwritten_sublist (line : List Char) : (overwritten line).Sublist line := by
  simpa [overwritten] using (List.takeWhile_sublist (· != '\r') (l := line.reverse)).reverse

theorem chomp_sublist (line : List Char) : (chomp line).Sublist line := by
  simpa [chomp] using (List.dropWhile_sublist (· == '\r') (l := line.reverse)).reverse

/-- The characters of a lexeme. -/
def Lexeme.chars : Lexeme → List Char
  | .char c => [c]
  | .rendition params => params
  | .command payload => payload
  | .control => []

theorem commandPayload?_sublist {s payload : List Char} (h : commandPayload? s = some payload) :
    payload.Sublist s := by
  fun_induction commandPayload? s generalizing payload with
  | case1 => simp at h
  | case2 => simp_all
  | case3 => simp at h
  | case4 c rest _ _ ih =>
    obtain ⟨inner, hinner, rfl⟩ := Option.map_eq_some_iff.1 h
    exact (ih hinner).cons_cons c

theorem sequence?_chars_sublist {s : List Char} {lexeme : Lexeme} {length : Nat}
    (h : sequence? s = some (lexeme, length)) : lexeme.chars.Sublist s := by
  unfold sequence? at h
  split at h
  · simp at h
  · next rest =>
    dsimp only at h
    split at h
    · simp at h
    · next final tail hfinal =>
      have hlexeme : (if final = 'm' then .rendition (rest.takeWhile isParameter ++
          (rest.dropWhile isParameter).takeWhile isIntermediate) else .control) = lexeme := by
        simp_all
      have hparams : (rest.takeWhile isParameter ++
          (rest.dropWhile isParameter).takeWhile isIntermediate).Sublist rest := by
        have happend := (List.Sublist.refl (rest.takeWhile isParameter)).append
          (List.takeWhile_sublist isIntermediate (l := rest.dropWhile isParameter))
        rwa [List.takeWhile_append_dropWhile] at happend
      rw [← hlexeme]
      split
      · exact hparams.cons '['
      · simp [Lexeme.chars]
  · next c rest _ =>
    split at h
    · obtain ⟨rfl, -⟩ : Lexeme.control = lexeme ∧ 1 = length := by simpa using h
      simp [Lexeme.chars]
    · split at h
      · next payload hpayload =>
        obtain ⟨rfl, -⟩ : Lexeme.command payload = lexeme ∧ _ := by simpa using h
        have hc : commandPayload? rest = some payload := by
          by_cases hc : c = ']' <;> simp_all
        exact (commandPayload?_sublist hc).cons c
      · obtain ⟨-, rfl, -⟩ : _ ∧ Lexeme.control = lexeme ∧ 1 = length := by simpa using h
        simp [Lexeme.chars]

theorem chars_sublist_of_mem_lexFrom {lexeme : Lexeme} {skip : Nat} {s : List Char}
    (h : lexeme ∈ lexFrom skip s) : lexeme.chars.Sublist s := by
  fun_induction lexFrom skip s with
  | case1 => simp at h
  | case2 skip d rest ih => exact (ih h).cons d
  | case3 rest hnone ih =>
    obtain rfl | h := List.mem_cons.1 h
    · simp [Lexeme.chars]
    · exact (ih h).cons esc
  | case4 rest first length hsome length' ih =>
    obtain rfl | h := List.mem_cons.1 h
    · exact (sequence?_chars_sublist hsome).cons esc
    · exact (ih h).cons esc
  | case5 c rest _ ih =>
    obtain rfl | h := List.mem_cons.1 h
    · simp [Lexeme.chars]
    · exact (ih h).cons c

theorem chars_sublist_of_mem_lineLexemes {lexeme : Lexeme} {line : List Char}
    (h : lexeme ∈ lineLexemes line) : lexeme.chars.Sublist line :=
  (chars_sublist_of_mem_lexFrom h).trans
    ((overwritten_sublist _).trans (chomp_sublist _))

/-! ### Reading lexemes -/

@[simp] theorem StyledText.cells_nil : StyledText.cells [] = [] := rfl

@[simp] theorem StyledText.cells_cons (r : Run) (t : StyledText) :
    StyledText.cells (r :: t) = r.chars.map (·, r.style) ++ t.cells := rfl

theorem shown_cells (style : Style) (chars : List Char) :
    (shown style chars).cells = (chars.filter (!isUnshown ·)).map (·, style) := by
  unfold shown
  split
  · simp_all
  · simp

theorem interpret_eq (style : Style) (pending : List Char) (ls : List Lexeme)
    (hls : Lexeme.char '\n' ∉ ls) :
    (interpret style pending ls).1.cells = (shown style pending.reverse).cells ++ paint style ls ∧
      (interpret style pending ls).2 = restyle style ls := by
  fun_induction interpret style pending ls with
  | case1 => simp [paint]
  | case2 style pending c rest ih =>
    have hc : c ≠ '\n' := fun h => hls (h ▸ List.mem_cons_self)
    obtain ⟨hcells, hstyle⟩ := ih fun h => hls (List.mem_cons_of_mem _ h)
    refine ⟨?_, hstyle⟩
    rw [hcells]
    by_cases hu : isUnshown c <;> simp [shown_cells, paint, Lexeme.cells, Lexeme.restyle, hc, hu]
  | case3 style pending lexeme rest hchar next text last hnext ih =>
    have hrestyle : next = lexeme.restyle style := by
      cases lexeme <;> rfl
    have hblank : lexeme.cells style = [] := by
      cases lexeme <;> first | rfl | exact absurd rfl (hchar _)
    obtain ⟨hcells, hstyle⟩ := ih fun h => hls (List.mem_cons_of_mem _ h)
    rw [hnext] at hcells hstyle
    simp only at hcells hstyle
    refine ⟨?_, ?_⟩
    · simp [hcells, paint, hblank, ← hrestyle, shown]
    · rw [hstyle, hrestyle, restyle_cons]

theorem readLine_eq (style : Style) {line : List Char} (hline : '\n' ∉ line) :
    (readLine style line).1.cells = paint style (lineLexemes line) ∧
      (readLine style line).2 = restyle style (lineLexemes line) := by
  have hfeed : Lexeme.char '\n' ∉ lineLexemes line := fun h =>
    hline ((chars_sublist_of_mem_lineLexemes h).subset (by simp [Lexeme.chars]))
  obtain ⟨hcells, hstyle⟩ := interpret_eq style [] (lineLexemes line) hfeed
  have hread : (readLine style line).1.cells =
      (interpret style [] (lineLexemes line)).1.cells := by
    simp only [readLine, lineLexemes]
    split
    · next hplain =>
      have : (interpret style [] (lineLexemes line)).1.cells.map Prod.fst = [] := by
        simpa [lineLexemes] using hplain
      exact (List.map_eq_nil_iff.1 this).symm
    · rfl
  refine ⟨?_, hstyle⟩
  rw [hread, hcells]
  simp [shown]

theorem readLines_eq (style : Style) {lines : List (List Char)}
    (hlines : ∀ line ∈ lines, '\n' ∉ line) :
    (readLines style lines).1.cells = paint style (linesLexemes lines) ∧
      (readLines style lines).2 = restyle style (linesLexemes lines) := by
  fun_induction readLines style lines with
  | case1 => simp [linesLexemes, paint]
  | case2 style line => exact readLine_eq style (hlines line (by simp))
  | case3 style line rest hrest text next hfirst more last hmore ih =>
    obtain ⟨second, rest, rfl⟩ := List.exists_cons_of_ne_nil hrest
    obtain ⟨hcells, hstyle⟩ := ih fun line h => hlines line (List.mem_cons_of_mem _ h)
    obtain ⟨hcells', hstyle'⟩ := readLine_eq style (hlines line List.mem_cons_self)
    rw [hfirst] at hcells' hstyle'
    rw [hmore] at hcells hstyle
    simp only at hcells hstyle hcells' hstyle'
    refine ⟨?_, ?_⟩
    · simp [linesLexemes, paint, Lexeme.cells, Lexeme.restyle, newline, hcells, hcells', hstyle']
    · simp [linesLexemes, Lexeme.restyle, hstyle, hstyle']

/-- What a stretch of output shows, and the style it leaves, are those of its lexemes. -/
theorem readText_eq (style : Style) (s : List Char) :
    (readText style s).1.cells = paint style (lexemes s) ∧
      (readText style s).2 = restyle style (lexemes s) :=
  readLines_eq style fun _ hline => (Text.sublist_of_mem_cut hline).2

theorem mem_lexemes_iff {lexeme : Lexeme} (hfeed : lexeme ≠ .char '\n') {s : List Char} :
    lexeme ∈ lexemes s ↔ ∃ line ∈ Text.cut '\n' s, lexeme ∈ lineLexemes line := by
  obtain ⟨line, rest, hcut⟩ := Text.exists_cut_eq_cons '\n' s
  simp [lexemes, hcut, linesLexemes_cons, hfeed]

/-- Every lexeme of a short text can be read, for its parameters are short. -/
theorem isReadable_of_length_le {lexeme : Lexeme} {line : List Char}
    (h : lexeme ∈ lineLexemes line) (hshort : line.length ≤ Decimal.mostDigits) :
    lexeme.isReadable := by
  have hlength := (chars_sublist_of_mem_lineLexemes h).length_le
  cases lexeme with
  | rendition params =>
    refine List.all_eq_true.2 fun param hparam => ?_
    have := (Text.sublist_of_mem_cut hparam).1.length_le
    simp only [Lexeme.chars] at hlength
    simp only [isReadable, Bool.or_eq_true, decide_eq_true_eq]
    omega
  | _ => rfl

/-- A stretch of output can be read exactly if all its lexemes can. -/
theorem isReadableText_iff (s : List Char) :
    isReadableText s ↔ ∀ lexeme ∈ lexemes s, lexeme.isReadable := by
  have hlines : (∀ line ∈ Text.cut '\n' s, ∀ lexeme ∈ lineLexemes line, lexeme.isReadable) ↔
      ∀ lexeme ∈ lexemes s, lexeme.isReadable := by
    constructor
    · intro h lexeme hlexeme
      by_cases hfeed : lexeme = .char '\n'
      · simp [hfeed, Lexeme.isReadable]
      · obtain ⟨line, hline, hmem⟩ := (mem_lexemes_iff hfeed).1 hlexeme
        exact h line hline lexeme hmem
    · intro h line hline lexeme hmem
      by_cases hfeed : lexeme = .char '\n'
      · simp [hfeed, Lexeme.isReadable]
      · exact h lexeme ((mem_lexemes_iff hfeed).2 ⟨line, hline, hmem⟩)
  rw [← hlines, isReadableText, Bool.or_eq_true, decide_eq_true_eq, List.all_eq_true]
  simp only [List.all_eq_true]
  constructor
  · rintro (hshort | h) line hline lexeme hmem
    · have := (Text.sublist_of_mem_cut hline).1.length_le
      exact isReadable_of_length_le hmem (by omega)
    · exact h line hline lexeme hmem
  · exact .inr

end ToolHost.Terminal
